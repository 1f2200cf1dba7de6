import Http1Client.Network.Address
import Http1Client.Proofs.Text.Pieces

/-!
# Addresses are read as they are written

An IPv4 address is read back from its four numbers (`Ipv4.dotted?_render`). An IPv6 address is read
back from both of its forms, the shortest one of URLs (`Ipv6.parse?_shortest`) and the one of
sockets, which may end in an IPv4 address (`Ipv6.parse?_renderMapped`). So the two forms are one
address to whoever connects (`Address.parse?_ipv6`).

The pieces that two colons stand for are zero and come back as zeros: `longestZeros_spec` cuts an
address into what is written before them, the zeros, and what is written behind.
-/

namespace Http1Client

/-- Attempts of which one fails give nothing. -/
theorem mapM_of_none {α β : Type} {f : α → Option β} {x : α} {xs : List α} (hx : x ∈ xs)
    (h : f x = none) : xs.mapM f = none := by
  induction xs with
  | nil => cases hx
  | cons y xs ih =>
    rw [List.mapM_cons]
    rcases List.mem_cons.1 hx with rfl | hx
    · rw [h]
      rfl
    · rw [ih hx]
      cases f y <;> rfl

namespace Ipv4

variable {a : Ipv4}

/-! ## Four numbers -/

theorem lt_of_mem_octets {n : Nat} (h : n ∈ a.octets) : n < 256 := by
  simp only [octets, List.mem_cons, List.not_mem_nil, or_false] at h
  omega

theorem octet?_decimal {n : Nat} (h : n < 256) : octet? (Text.decimal n) = some n := by
  have hall : ∀ n < 256, octet? (Text.decimal n) = some n := by decide +kernel
  exact hall n h

/-- The address of its own bytes. -/
theorem ofOctets_octets (a : Ipv4) :
    ofOctets (a.bits.toNat / 0x1000000 % 256) (a.bits.toNat / 0x10000 % 256)
      (a.bits.toNat / 0x100 % 256) (a.bits.toNat % 256) = a := by
  have hlt := a.bits.toNat_lt
  have hsum : a.bits.toNat / 0x1000000 % 256 * 0x1000000 + a.bits.toNat / 0x10000 % 256 * 0x10000 +
      a.bits.toNat / 0x100 % 256 * 0x100 + a.bits.toNat % 256 = a.bits.toNat := by omega
  rw [ofOctets, hsum, UInt32.ofNat_toNat]

/-- The numbers stand apart by points. -/
theorem split_render (a : Ipv4) : Text.split '.' a.render = a.octets.map Text.decimal := by
  refine Text.split_pieces (List.cons_ne_nil _ _) fun piece hpiece => ?_
  obtain ⟨n, -, rfl⟩ := List.mem_map.1 hpiece
  exact Text.not_mem_of_isDigit (fun c hc => Text.isDigit_decimal hc) (by decide)

/-- An address is read back from its four numbers. -/
theorem dotted?_render (a : Ipv4) : dotted? a.render = some a := by
  have hread : (a.octets.map Text.decimal).mapM octet? = some a.octets := by
    have hlt : ∀ n ∈ a.octets, n < 256 := fun n hn => lt_of_mem_octets hn
    generalize a.octets = octets at hlt
    induction octets with
    | nil => rfl
    | cons n octets ih =>
      rw [List.map_cons, List.mapM_cons, octet?_decimal (hlt n List.mem_cons_self),
        ih fun k hk => hlt k (List.mem_cons_of_mem _ hk)]
      rfl
  rw [dotted?, split_render, hread]
  exact congrArg some (ofOctets_octets a)

/-- An address is written in digits and points. -/
theorem mem_render {c : Char} (h : c ∈ a.render) : Text.isDigit 10 c = true ∨ c = '.' := by
  rcases Text.mem_intercalate h with rfl | ⟨piece, hpiece, hc⟩
  · exact .inr rfl
  · obtain ⟨n, -, rfl⟩ := List.mem_map.1 hpiece
    exact .inl (Text.isDigit_decimal hc)

theorem octet?_of_colon {s : List Char} (h : ':' ∈ s) : octet? s = none := by
  have hall : s.all Char.isDigit = false := List.all_eq_false.2 ⟨':', h, by decide⟩
  simp only [octet?, hall, Bool.not_false, true_or, or_true, if_true]

/-- Four numbers hold no colon. -/
theorem dotted?_of_colon {s : List Char} (h : ':' ∈ s) : dotted? s = none := by
  have hnone : (Text.split '.' s).mapM octet? = none := by
    have hs : ['.'].intercalate (Text.split '.' s) = s := List.intercalate_splitOn '.'
    rw [← hs] at h
    rcases Text.mem_intercalate h with hpoint | ⟨piece, hpiece, hmem⟩
    · cases hpoint
    · exact mapM_of_none hpiece (octet?_of_colon hmem)
  rw [dotted?, hnone]

end Ipv4

namespace Ipv6

variable {a : Ipv6} {pieces : List UInt16}

/-! ## Pieces -/

theorem colon_not_mem_hexadecimal (n : Nat) : ':' ∉ Text.hexadecimal n :=
  Text.not_mem_of_isDigit (fun c hc => Text.isDigit_hexadecimal hc) (by decide)

/-- A piece is read back from its digits. -/
theorem piece?_hexadecimal (p : UInt16) : piece? (Text.hexadecimal p.toNat) = some p := by
  have hne : (Text.hexadecimal p.toNat).isEmpty = false :=
    List.isEmpty_eq_false_iff.2 Nat.toDigits_ne_nil
  have hlength : ¬ 4 < (Text.hexadecimal p.toNat).length := by
    have hlt := p.toNat_lt
    have hle : (Nat.toDigits 16 p.toNat).length ≤ 4 :=
      (Nat.length_toDigits_le_iff (by omega) (by omega)).2 (by omega)
    exact Nat.not_lt.2 hle
  have hdigits : (Text.hexadecimal p.toNat).all (Text.isDigit 16) = true :=
    List.all_eq_true.2 fun c hc => Text.isDigit_hexadecimal hc
  simp only [piece?, hne, hlength, hdigits, Text.digitsValue_hexadecimal, UInt16.ofNat_toNat,
    Bool.false_eq_true, Bool.not_true, or_self, if_false]

theorem piecesOf?_hexadecimal (dotted : Bool) (pieces : List UInt16) :
    piecesOf? dotted (pieces.map fun p => Text.hexadecimal p.toNat) = some pieces := by
  induction pieces with
  | nil => rfl
  | cons p pieces ih =>
    cases pieces with
    | nil => simp only [List.map_cons, List.map_nil, piecesOf?, piece?_hexadecimal]
    | cons q pieces =>
      simp only [List.map_cons] at ih
      simp only [List.map_cons, piecesOf?, piece?_hexadecimal, ih, Option.map_some]

/-- Pieces stand apart by colons. -/
theorem split_renderPieces (hne : pieces ≠ []) :
    Text.split ':' (renderPieces pieces) = pieces.map fun p => Text.hexadecimal p.toNat := by
  refine Text.split_pieces (mt List.map_eq_nil_iff.1 hne) fun piece hpiece => ?_
  obtain ⟨p, -, rfl⟩ := List.mem_map.1 hpiece
  exact colon_not_mem_hexadecimal p.toNat

theorem renderPieces_singleton (p : UInt16) : renderPieces [p] = Text.hexadecimal p.toNat :=
  List.intercalate_singleton

theorem renderPieces_cons_cons (p q : UInt16) (pieces : List UInt16) :
    renderPieces (p :: q :: pieces) =
      Text.hexadecimal p.toNat ++ ':' :: renderPieces (q :: pieces) := by
  rw [renderPieces, List.map_cons, List.map_cons, List.intercalate_cons_cons, List.append_assoc]
  rfl

/-- Pieces that are written start with a digit. -/
theorem exists_renderPieces (p : UInt16) (pieces : List UInt16) :
    ∃ c rest, c ≠ ':' ∧ renderPieces (p :: pieces) = c :: rest := by
  have hne : Text.hexadecimal p.toNat ≠ [] := Nat.toDigits_ne_nil
  obtain ⟨c, digits, hdigits⟩ := List.exists_cons_of_ne_nil hne
  have hc : c ≠ ':' := by
    rintro rfl
    exact colon_not_mem_hexadecimal p.toNat (hdigits ▸ List.mem_cons_self)
  cases pieces with
  | nil => exact ⟨c, digits, hc, (renderPieces_singleton p).trans hdigits⟩
  | cons q pieces =>
    refine ⟨c, digits ++ ':' :: renderPieces (q :: pieces), hc, ?_⟩
    rw [renderPieces_cons_cons, hdigits, List.cons_append]

/-- A side of the two colons is read back, if there is anything. -/
theorem side?_renderPieces (dotted : Bool) (pieces : List UInt16) :
    side? dotted (renderPieces pieces) = some pieces := by
  cases pieces with
  | nil => rfl
  | cons p pieces =>
    obtain ⟨c, rest, -, hrender⟩ := exists_renderPieces p pieces
    have hne : (renderPieces (p :: pieces)).isEmpty = false := by rw [hrender]; rfl
    rw [side?, hne, split_renderPieces (List.cons_ne_nil _ _), piecesOf?_hexadecimal]
    rfl

/-! ## The two colons -/

/-- Text without a colon is passed over. -/
theorem cutGap_append {s : List Char} (h : ':' ∉ s) (tail : List Char) :
    cutGap (s ++ tail) = (cutGap tail).map fun (front, back) => (s ++ front, back) := by
  induction s with
  | nil =>
    rw [List.nil_append]
    cases cutGap tail <;> rfl
  | cons c s ih =>
    obtain ⟨hc, hs⟩ := not_or.1 (mt List.mem_cons.2 h)
    have hstep : cutGap (c :: (s ++ tail)) =
        (cutGap (s ++ tail)).map fun (front, back) => (c :: front, back) := by
      rw [cutGap]
      rintro rest rfl
      exact absurd rfl hc
    rw [List.cons_append, hstep, ih hs, Option.map_map]
    rfl

/-- A colon alone is passed over. -/
theorem cutGap_colon {c : Char} (h : c ≠ ':') (tail : List Char) :
    cutGap (':' :: c :: tail) =
      (cutGap (c :: tail)).map fun (front, back) => (':' :: front, back) := by
  rw [cutGap]
  intro rest _ hrest
  exact absurd (List.cons.inj hrest).1 h

/-- So are pieces. -/
theorem cutGap_renderPieces (pieces : List UInt16) (tail : List Char) :
    cutGap (renderPieces pieces ++ tail) =
      (cutGap tail).map fun (front, back) => (renderPieces pieces ++ front, back) := by
  induction pieces with
  | nil => cases h : cutGap tail <;> simp [renderPieces, h]
  | cons p pieces ih =>
    cases pieces with
    | nil =>
      rw [renderPieces_singleton]
      exact cutGap_append (colon_not_mem_hexadecimal p.toNat) tail
    | cons q pieces =>
      obtain ⟨c, rest, hc, hrender⟩ := exists_renderPieces q pieces
      have hcolon := cutGap_colon hc (rest ++ tail)
      rw [← List.cons_append, ← hrender, ih] at hcolon
      rw [renderPieces_cons_cons, List.append_assoc,
        cutGap_append (colon_not_mem_hexadecimal p.toNat), List.cons_append, hcolon]
      cases cutGap tail with
      | none => rfl
      | some sides => simp

/-! ## The shortest form -/

theorem zerosAhead_spec (pieces : List UInt16) :
    ∃ back, pieces = List.replicate (zerosAhead pieces) 0 ++ back := by
  refine ⟨pieces.dropWhile (· == 0), ?_⟩
  have hzeros : pieces.takeWhile (· == 0) = List.replicate (zerosAhead pieces) 0 :=
    List.eq_replicate_of_mem fun p hp => by simpa using List.mem_takeWhile_imp hp
  rw [← hzeros, List.takeWhile_append_dropWhile]

/-- The run that is found is one of zeros, at its place. -/
theorem longestZeros_spec {index start length : Nat}
    (h : longestZeros index pieces = (start, length)) :
    ∃ front back, pieces = front ++ (List.replicate length 0 ++ back) ∧
      start = index + front.length := by
  induction pieces generalizing index with
  | nil =>
    cases h
    exact ⟨[], [], rfl, rfl⟩
  | cons p pieces ih =>
    rw [longestZeros] at h
    split at h
    · cases h
      obtain ⟨back, hback⟩ := zerosAhead_spec (p :: pieces)
      exact ⟨[], back, hback, rfl⟩
    · obtain ⟨front, back, rfl, rfl⟩ := ih h
      refine ⟨p :: front, back, rfl, ?_⟩
      rw [List.length_cons]
      omega

/-- Pieces that are all written are read back. -/
theorem parse?_renderPieces (hne : pieces ≠ []) :
    parse? (renderPieces pieces) = ofPieces? pieces := by
  have hgap : cutGap (renderPieces pieces) = none := by
    have hgap := cutGap_renderPieces pieces []
    rw [List.append_nil] at hgap
    exact hgap
  rw [parse?, hgap]
  dsimp only
  rw [split_renderPieces hne, piecesOf?_hexadecimal]
  rfl

/-- Pieces around two colons are read back with zeros between them, as many as are missing. -/
theorem parse?_gap {front back : List UInt16} {length : Nat} (hlength : length ≠ 0)
    (hsum : front.length + (length + back.length) = 8) :
    parse? (renderPieces front ++ [':', ':'] ++ renderPieces back) =
      ofPieces? (front ++ (List.replicate length 0 ++ back)) := by
  have hgap : cutGap (renderPieces front ++ [':', ':'] ++ renderPieces back) =
      some (renderPieces front, renderPieces back) := by
    rw [List.append_assoc, cutGap_renderPieces]
    show some (renderPieces front ++ [], renderPieces back) = _
    rw [List.append_nil]
  have hmissing : 8 - front.length - back.length = length := by omega
  rw [parse?, hgap]
  dsimp only
  rw [side?_renderPieces, side?_renderPieces]
  dsimp only
  rw [if_pos (by omega), hmissing, List.append_assoc]

theorem ofPieces?_pieces (a : Ipv6) : ofPieces? a.pieces = some a := dif_pos a.length_eq

/-- An address is read back from its shortest form. -/
theorem parse?_shortest (a : Ipv6) : parse? a.render = some a := by
  have hlength := a.length_eq
  generalize hzeros : longestZeros 0 a.pieces = zeros
  obtain ⟨start, length⟩ := zeros
  rw [render, hzeros]
  dsimp only
  split
  · rw [parse?_renderPieces (List.ne_nil_of_length_pos (by omega)), ofPieces?_pieces]
  · obtain ⟨front, back, hpieces, hstart⟩ := longestZeros_spec hzeros
    rw [Nat.zero_add] at hstart
    have hfront : a.pieces.take start = front := by
      rw [hpieces, hstart]
      exact List.take_left
    have hback : a.pieces.drop (start + length) = back := by
      rw [hpieces, hstart, ← List.append_assoc]
      exact List.drop_left' (by rw [List.length_append, List.length_replicate])
    have hsum : front.length + (length + back.length) = 8 := by
      rw [← hlength, hpieces, List.length_append, List.length_append, List.length_replicate]
    rw [hfront, hback, parse?_gap (by omega) hsum, ← hpieces, ofPieces?_pieces]

/-! ## The form of sockets -/

/-- The last two pieces are those of the address behind the mark. -/
theorem mapped?_spec {v4 : Ipv4} (h : a.mapped? = some v4) :
    a.pieces = List.replicate 5 0 ++ (0xFFFF :: ofIpv4 v4) := by
  unfold mapped? at h
  split at h
  · next hi lo hpieces =>
    have hhi := hi.toNat_lt
    have hlo := lo.toNat_lt
    cases h
    have hbits : (UInt32.ofNat (hi.toNat * 0x10000 + lo.toNat)).toNat =
        hi.toNat * 0x10000 + lo.toNat := by
      rw [UInt32.toNat_ofNat']
      exact Nat.mod_eq_of_lt (by omega)
    have hhigh : (hi.toNat * 0x10000 + lo.toNat) / 0x10000 = hi.toNat := by omega
    have hlow : (hi.toNat * 0x10000 + lo.toNat) % 0x10000 = lo.toNat := by omega
    rw [hpieces, ofIpv4]
    dsimp only
    rw [hbits, hhigh, hlow, UInt16.ofNat_toNat, UInt16.ofNat_toNat]
    rfl
  · cases h

/-- An address in numbers is no piece. -/
theorem piece?_render (v4 : Ipv4) : piece? v4.render = none := by
  have hpoint : '.' ∈ v4.render := by
    have hrender : v4.render = Text.decimal (v4.bits.toNat / 0x1000000 % 256) ++ ['.'] ++ _ :=
      List.intercalate_cons_cons
    rw [hrender]
    exact List.mem_append_left _ (List.mem_append_right _ List.mem_cons_self)
  have hall : v4.render.all (Text.isDigit 16) = false :=
    List.all_eq_false.2 ⟨'.', hpoint, by decide⟩
  simp only [piece?, hall, Bool.not_false, or_true, if_true]

/-- An address is read back from the form of sockets. -/
theorem parse?_renderMapped (a : Ipv6) : parse? a.renderMapped = some a := by
  unfold renderMapped
  split
  · next v4 hmapped =>
    have hcolon : ':' ∉ v4.render := by
      intro hmem
      rcases Ipv4.mem_render hmem with hdigit | hpoint
      · cases hdigit
      · cases hpoint
    have hsplit : Text.split ':' ("ffff".toList ++ ':' :: v4.render) =
        ["ffff".toList, v4.render] := by
      rw [Text.split_append, Text.split_of_not_mem hcolon, Text.split_of_not_mem (by decide)]
      rfl
    have hside : side? true ("ffff".toList ++ ':' :: v4.render) = some (0xFFFF :: ofIpv4 v4) := by
      have hpiece : piece? "ffff".toList = some 0xFFFF := by decide
      have hne : ("ffff".toList ++ ':' :: v4.render).isEmpty = false := rfl
      rw [side?, hne, hsplit]
      simp only [piecesOf?, hpiece, piece?_render, Ipv4.dotted?_render]
      rfl
    have hgap : cutGap ("::ffff:".toList ++ v4.render) =
        some ([], "ffff".toList ++ ':' :: v4.render) := rfl
    rw [parse?, hgap]
    dsimp only
    rw [hside]
    have hpieces := ofPieces?_pieces a
    rw [mapped?_spec hmapped] at hpieces
    exact hpieces
  · exact parse?_shortest a

/-! ## What is written -/

/-- An address is written in digits and colons. -/
theorem mem_renderPieces {c : Char} (h : c ∈ renderPieces pieces) :
    Text.isDigit 16 c = true ∨ c = ':' := by
  rcases Text.mem_intercalate h with rfl | ⟨piece, hpiece, hc⟩
  · exact .inr rfl
  · obtain ⟨n, -, rfl⟩ := List.mem_map.1 hpiece
    exact .inl (Text.isDigit_hexadecimal hc)

theorem mem_render {c : Char} (h : c ∈ a.render) : Text.isDigit 16 c = true ∨ c = ':' := by
  unfold render at h
  dsimp only at h
  split at h
  · exact mem_renderPieces h
  · rcases List.mem_append.1 h with h | h
    · rcases List.mem_append.1 h with h | h
      · exact mem_renderPieces h
      · simp only [List.mem_cons, List.not_mem_nil, or_false, or_self] at h
        exact .inr h
    · exact mem_renderPieces h

/-- There is a colon in it. -/
theorem colon_mem_render (a : Ipv6) : ':' ∈ a.render := by
  unfold render
  dsimp only
  split
  · obtain ⟨pieces, hlength⟩ := a
    match pieces, hlength with
    | p :: q :: pieces, _ =>
      rw [renderPieces_cons_cons]
      exact List.mem_append_right _ List.mem_cons_self
  · exact List.mem_append_left _ (List.mem_append_right _ List.mem_cons_self)

theorem colon_mem_renderMapped (a : Ipv6) : ':' ∈ a.renderMapped := by
  unfold renderMapped
  split
  · exact List.mem_append_left _ (by decide)
  · exact colon_mem_render a

end Ipv6

namespace Address

/-- Both forms of an IPv6 address are the address. -/
theorem parse?_ipv6 (a : Ipv6) :
    parse? (String.ofList a.render) = some (.ipv6 a) ∧
      parse? (String.ofList a.renderMapped) = some (.ipv6 a) := by
  constructor
  · rw [parse?, String.toList_ofList, Ipv4.dotted?_of_colon a.colon_mem_render,
      Ipv6.parse?_shortest]
    rfl
  · rw [parse?, String.toList_ofList, Ipv4.dotted?_of_colon a.colon_mem_renderMapped,
      Ipv6.parse?_renderMapped]
    rfl

end Address

end Http1Client
