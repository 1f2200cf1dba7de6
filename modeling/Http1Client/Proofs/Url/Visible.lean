import Http1Client.Proofs.Url.Addresses
import Http1Client.Url.Reader

/-!
# What a URL puts into a request is visible

The target of a request and its host come from a URL. Whatever the URL was read from,
both hold visible characters of ASCII only: no blank, no control and above all no line
break (`parse_visible`). Parts of the path and the query are percent-encoded, the labels
of a name are characters that are allowed or Punycode, and addresses are digits and marks.
-/

namespace Http1Client.Url

/-- A character of ASCII that is neither a space nor a control. -/
def Visible (c : Char) : Prop := 0x20 < c.toNat ∧ c.toNat < 0x7F

instance (c : Char) : Decidable (Visible c) := inferInstanceAs (Decidable (_ ∧ _))

/-- A character that stands in the ASCII form of a name. -/
def NameChar (c : Char) : Prop := DomainName.allowed c = true ∧ c.toNat < 0x80

instance (c : Char) : Decidable (NameChar c) := inferInstanceAs (Decidable (_ ∧ _))

theorem visible_of_nameChar {c : Char} (h : NameChar c) : Visible c := by
  obtain ⟨hallowed, hascii⟩ := h
  simp only [DomainName.allowed, Bool.and_eq_true, decide_eq_true_eq] at hallowed
  exact ⟨hallowed.1.1, by omega⟩

theorem visible_of_isDigit {c : Char} (h : Text.isDigit 16 c = true) : Visible c := by
  have := Text.isDigit_cases h
  unfold Visible
  omega

theorem visible_decimal {n : Nat} {c : Char} (h : c ∈ Text.decimal n) : Visible c :=
  visible_of_isDigit (Text.isDigit_mono (by omega) (Text.isDigit_decimal h))

/-! ## Percent encoding -/

theorem visible_hexDigit {n : Nat} (h : n < 16) : Visible (hexDigit n) := by
  interval_cases n <;> decide

theorem visible_percentByte {b : UInt8} {c : Char} (h : c ∈ percentByte b) : Visible c := by
  have hb := b.toNat_lt
  simp only [percentByte, List.mem_cons, List.not_mem_nil, or_false] at h
  rcases h with rfl | rfl | rfl
  · decide
  · exact visible_hexDigit (by omega)
  · exact visible_hexDigit (by omega)

/-- A set that holds the space leaves nothing invisible. -/
theorem visible_percentEncode {set s : List Char} (hspace : ' ' ∈ set) {c : Char}
    (h : c ∈ percentEncode set s) : Visible c := by
  obtain ⟨a, -, hc⟩ := List.mem_flatMap.1 h
  unfold percentChar at hc
  split at hc
  · obtain ⟨b, -, hb⟩ := List.mem_flatMap.1 hc
    exact visible_percentByte hb
  · next hplain =>
    cases List.mem_singleton.1 hc
    obtain ⟨hlow, hrest⟩ := not_or.1 hplain
    obtain ⟨hhigh, hset⟩ := not_or.1 hrest
    have hne : c.toNat ≠ 0x20 := by
      intro hc
      have hblank : c = ' ' := Char.toNat_inj.1 hc
      exact hset (List.contains_iff_mem.2 (hblank ▸ hspace))
    exact ⟨by omega, by omega⟩

theorem space_mem_querySet (special : Bool) : ' ' ∈ querySet special := by
  cases special <;> decide

/-! ## Paths -/

namespace Path

/-- All segments that are kept are visible. -/
def Walk.Shown (w : Walk) : Prop := ∀ s ∈ w.kept, ∀ c ∈ s, Visible c

namespace Walk

variable {w : Walk}

theorem shown_up (h : w.Shown) : w.up.Shown := by
  unfold up
  split
  · exact h
  · next s rest hkept =>
    split
    · exact h
    · intro s' hs'
      exact h s' (hkept ▸ List.mem_cons_of_mem _ hs')

theorem shown_add (h : w.Shown) (s : List Char) : (w.add s).Shown := by
  intro s' hs' c hc
  rcases List.mem_cons.1 hs' with rfl | hs'
  · exact visible_percentEncode (by decide) hc
  · exact h s' hs' c hc

/-- A segment of a path that is not that of a file keeps all visible. -/
theorem shown_step (h : w.Shown) (s : List Char) : (w.step false s).Shown := by
  unfold step
  split
  · exact h
  · exact shown_up h
  · rw [Bool.false_and]
    exact shown_add h _

theorem shown_run (h : w.Shown) (segments : List (List Char)) : (run false w segments).Shown := by
  induction segments generalizing w with
  | nil => exact h
  | cons s rest ih =>
    cases rest with
    | nil =>
      unfold run
      split
      · exact shown_add (shown_step h s) []
      · exact shown_add (shown_step h s) []
      · exact shown_step h s
    | cons => exact ih (shown_step h s)

end Walk

theorem visible_read {special : Bool} {text s : List Char} (h : s ∈ read special text) {c : Char}
    (hc : c ∈ s) : Visible c := by
  have hstart : Walk.Shown ⟨[], false⟩ := nofun
  exact Walk.shown_run hstart _ s (List.mem_reverse.1 h) c hc

end Path

/-! ## Names -/

/-- What a list of attempts gives comes from one of them. -/
theorem exists_of_mem_mapM {α β : Type} {f : α → Option β} {xs : List α} {ys : List β}
    (h : xs.mapM f = some ys) {y : β} (hy : y ∈ ys) : ∃ x ∈ xs, f x = some y := by
  induction xs generalizing ys with
  | nil =>
    cases h
    cases hy
  | cons x xs ih =>
    rw [List.mapM_cons] at h
    obtain ⟨b, hb, h⟩ := Option.bind_eq_some_iff.1 h
    obtain ⟨bs, hbs, h⟩ := Option.bind_eq_some_iff.1 h
    cases h
    rcases List.mem_cons.1 hy with rfl | hy
    · exact ⟨x, List.mem_cons_self, hb⟩
    · obtain ⟨a, ha, hay⟩ := ih hbs hy
      exact ⟨a, List.mem_cons_of_mem _ ha, hay⟩

namespace Punycode

theorem nameChar_digit {n : Nat} (h : n < 36) : NameChar (digit n) := by
  interval_cases n <;> decide

theorem nameChar_digitsOf {bias k n : Nat} {c : Char} (h : c ∈ digitsOf bias k n) :
    NameChar c := by
  induction k, n using digitsOf.induct bias with
  | case1 k n t hn =>
    rw [digitsOf, dif_pos hn, List.mem_singleton] at h
    subst h
    have ht : threshold bias k ≤ 26 := Nat.max_le.2 ⟨by omega, Nat.min_le_left _ _⟩
    exact nameChar_digit (by omega)
  | case2 k n t hn ih =>
    rw [digitsOf, dif_neg hn, List.mem_cons] at h
    rcases h with rfl | h
    · have ht : threshold bias k ≤ 26 := Nat.max_le.2 ⟨by omega, Nat.min_le_left _ _⟩
      have := Nat.mod_lt (n - threshold bias k) (show 0 < 36 - threshold bias k by omega)
      exact nameChar_digit (by omega)
    · exact ih h

/-- What is written after the ASCII characters of a label. -/
def Writer.Named (w : Writer) : Prop := ∀ c ∈ w.out, NameChar c

theorem Writer.named_scan {w : Writer} (h : w.Named) (point : Nat) (c : Char) :
    (w.scan point c).Named := by
  unfold Writer.scan
  split
  · exact h
  split
  · intro d hd
    rcases List.mem_append.1 hd with hd | hd
    · exact h d hd
    · exact nameChar_digitsOf hd
  · exact h

theorem Writer.named_foldl {w : Writer} (h : w.Named) (point : Nat) (label : List Char) :
    (label.foldl (Writer.scan point) w).Named := by
  induction label generalizing w with
  | nil => exact h
  | cons c label ih => exact ih (named_scan h point c)

theorem named_insertPoints {label : List Char} {start : Nat} {points : List Nat} {w : Writer}
    (h : w.Named) : (insertPoints label start points w).Named := by
  -- Digits are only ever added behind what is written, whatever the place of insertion.
  induction points generalizing start w with
  | nil => exact h
  | cons point rest ih =>
    have hdelta : Writer.Named { w with delta := w.delta + (point - start) * (w.done + 1) } := h
    have hfold := Writer.named_foldl hdelta point label
    exact ih hfold

theorem nameChar_encode {label : List Char} (h : ∀ c ∈ label, DomainName.allowed c = true)
    {c : Char} (hc : c ∈ encode label) : NameChar c := by
  rcases List.mem_append.1 hc with hc | hc
  · rcases List.mem_append.1 hc with hc | hc
    · obtain ⟨hmem, hascii⟩ := List.mem_filter.1 hc
      exact ⟨h c hmem, of_decide_eq_true hascii⟩
    · split at hc
      · cases hc
      · rw [List.mem_singleton.1 hc]
        decide
  · have hstart : Writer.Named
        ⟨[], 0, 72, (label.filter (·.toNat < 128)).length, true⟩ := nofun
    exact named_insertPoints hstart c hc

end Punycode

namespace DomainName

theorem nameChar_punycodeMark {c : Char} (h : c ∈ punycodeMark) : NameChar c := by
  simp only [punycodeMark, List.mem_cons, List.not_mem_nil, or_false] at h
  rcases h with rfl | rfl | rfl | rfl
  · decide
  · decide
  · decide
  · decide

/-- A label of allowed characters is written in characters of names. -/
theorem nameChar_label {text : List Char} {l : Label} (h : Label.ofText? text = some l)
    (htext : ∀ c ∈ text, allowed c = true) {c : Char} (hc : c ∈ l.ascii) : NameChar c := by
  unfold Label.ofText? at h
  split at h
  · unfold Label.ofPunycode? at h
    split at h
    · cases h
    next hcode =>
    split at h
    · cases h
    split at h
    · cases h
      rcases List.mem_append.1 hc with hc | hc
      · exact nameChar_punycodeMark hc
      · have hnarrow : isNarrow (text.drop punycodeMark.length) = true := by
          cases hn : isNarrow (text.drop punycodeMark.length) with
          | true => rfl
          | false => simp [hn] at hcode
        have hascii := of_decide_eq_true (List.all_eq_true.1 hnarrow c hc)
        exact ⟨htext c (List.mem_of_mem_drop hc), hascii⟩
    · cases h
  split at h
  · next hnarrow =>
    cases h
    exact ⟨htext c hc, of_decide_eq_true (List.all_eq_true.1 hnarrow c hc)⟩
  split at h
  · cases h
  · cases h
    rcases List.mem_append.1 hc with hc | hc
    · exact nameChar_punycodeMark hc
    · exact Punycode.nameChar_encode htext hc

theorem allowed_of_mapped {name text : List Char} (h : mapped? name = some text) {c : Char}
    (hc : c ∈ text) : allowed c = true := by
  unfold mapped? at h
  split at h
  · cases h
  dsimp only at h
  split at h
  · next hall =>
    cases h
    exact List.all_eq_true.1 hall c hc
  · cases h

/-- The ASCII form of a name holds characters of names only. -/
theorem nameChar_ascii {name text : List Char} (h : ascii? name = some text) {c : Char}
    (hc : c ∈ text) : NameChar c := by
  unfold ascii? at h
  obtain ⟨labels, hlabels, rfl⟩ := Option.map_eq_some_iff.1 h
  rcases Text.mem_intercalate hc with rfl | ⟨piece, hpiece, hcl⟩
  · decide
  obtain ⟨l, hl, rfl⟩ := List.mem_map.1 hpiece
  unfold labels? at hlabels
  split at hlabels
  · cases hlabels
  next mapped hmapped =>
  split at hlabels
  · cases hlabels
  next read hread =>
  have hlabels' : read = labels := by
    split at hlabels
    · exact Option.some.inj hlabels
    · cases hlabels
  subst hlabels'
  obtain ⟨t, ht, hofText⟩ := exists_of_mem_mapM hread hl
  exact nameChar_label hofText
    (fun a ha => allowed_of_mapped hmapped (Text.mem_of_mem_splitOnP ht ha)) hcl

end DomainName

/-! ## Addresses -/

theorem visible_ipv4 (a : Ipv4) {c : Char} (h : c ∈ a.render) : Visible c := by
  rcases Ipv4.mem_render h with hdigit | rfl
  · exact visible_of_isDigit (Text.isDigit_mono (by omega) hdigit)
  · decide

theorem visible_ipv6 (a : Ipv6) {c : Char} (h : c ∈ a.render) : Visible c := by
  rcases Ipv6.mem_render h with hdigit | rfl
  · exact visible_of_isDigit hdigit
  · decide

/-! ## Hosts -/

namespace Host

theorem bracketed_ok {rest : List Char} {host : Host} (h : bracketed rest = .ok host) :
    ∃ a, host = .ipv6 a := by
  unfold bracketed at h
  split at h
  · split at h
    · cases h
      exact ⟨_, rfl⟩
    · cases h
  · cases h

/-- The host of a scheme that is known is an address, or a name in ASCII. -/
theorem ofDomain_ok {s : List Char} {host : Host} (h : ofDomain s = .ok host) :
    (∃ a, host = .ipv4 a) ∨
      ∃ decoded domain, DomainName.ascii? decoded = some domain ∧ host = .name domain := by
  unfold ofDomain at h
  split at h
  · cases h
  next decoded _ =>
  split at h
  · cases h
  · cases h
  next domain _ hascii =>
  split at h
  · split at h
    · cases h
      exact .inl ⟨_, rfl⟩
    · cases h
  · cases h
    exact .inr ⟨decoded.toList, domain, hascii, rfl⟩

/-- What the host of a scheme that is known may be. -/
inductive Known : Host → Prop
  | name {text : List Char} (h : ∀ c ∈ text, NameChar c) : Known (.name text)
  | ipv4 (a : Ipv4) : Known (.ipv4 a)
  | ipv6 (a : Ipv6) : Known (.ipv6 a)

theorem known_of_parse {s : List Char} {host : Host} (h : parse true s = .ok host) :
    Known host := by
  unfold parse at h
  split at h
  · obtain ⟨a, rfl⟩ := bracketed_ok h
    exact .ipv6 a
  · rw [if_pos rfl] at h
    rcases ofDomain_ok h with ⟨a, rfl⟩ | ⟨decoded, domain, hascii, rfl⟩
    · exact .ipv4 a
    · exact .name fun c hc => DomainName.nameChar_ascii hascii hc

/-- It is written in visible characters. -/
theorem visible_render {host : Host} (h : Known host) {c : Char} (hc : c ∈ host.render) :
    Visible c := by
  cases h with
  | name hname => exact visible_of_nameChar (hname c hc)
  | ipv4 a => exact visible_ipv4 a hc
  | ipv6 a =>
    rcases List.mem_cons.1 hc with rfl | hc
    · decide
    · rcases List.mem_append.1 hc with hc | hc
      · exact visible_ipv6 a hc
      · rw [List.mem_singleton.1 hc]
        decide

end Host

/-! ## URLs -/

/-- What a URL of a scheme that is known is made of. -/
structure Special (scheme : List Char) (u : Url) : Prop where
  scheme : u.scheme = scheme
  host : ∃ text host, Host.parse true text = .ok host ∧ u.host = some host
  port : ∃ text, readPort u.scheme text = .ok u.port
  path : ∃ text, u.path = .segments (Path.read true text)
  query : ∃ text, u.query = Option.map (percentEncode (querySet true)) text

theorem readAuthority_ok {scheme : List Char} {more : Bool} {s : List Char} {a : Authority}
    (h : readAuthority scheme true more s = .ok a) :
    (∃ text, Host.parse true text = .ok a.host) ∧ ∃ text, readPort scheme text = .ok a.port := by
  unfold readAuthority at h
  dsimp only at h
  split at h
  · cases h
  split at h
  · cases h
  split at h
  · cases h
  next host hhost =>
  split at h
  · cases h
  split at h
  · cases h
  next port hport =>
  split at h
  · cases h
  · cases h
    exact ⟨⟨_, hhost⟩, _, hport⟩

theorem afterSlashes_ok {scheme : List Char} {s : List Char} {u : Url}
    (h : afterSlashes scheme true s = .ok u) : Special scheme u := by
  unfold afterSlashes at h
  dsimp only at h
  split at h
  · cases h
  next a ha =>
  cases h
  obtain ⟨⟨text, hhost⟩, hport⟩ := readAuthority_ok ha
  exact ⟨rfl, ⟨text, a.host, hhost, rfl⟩, hport, ⟨_, rfl⟩, ⟨_, rfl⟩⟩

theorem afterSlashes_scheme {scheme : List Char} {special : Bool} {s : List Char} {u : Url}
    (h : afterSlashes scheme special s = .ok u) : u.scheme = scheme := by
  unfold afterSlashes at h
  dsimp only at h
  split at h
  · cases h
  · cases h
    rfl

theorem ofFile_scheme {s : List Char} {u : Url} (h : ofFile s = .ok u) :
    u.scheme = "file".toList := by
  unfold ofFile at h
  split at h
  · cases h
  · cases h
    rfl

/-- A URL of a scheme that is known was read as one. -/
theorem parse_special {text : String} {u : Url} (h : parse text = .ok u)
    (hspecial : isSpecial u.scheme = true) : Special u.scheme u := by
  unfold parse at h
  dsimp only at h
  split at h
  · cases h
  next scheme rest _ =>
  split at h
  · rw [ofFile_scheme h] at hspecial
    cases hspecial
  split at h
  · have hu := afterSlashes_ok h
    rw [hu.scheme]
    exact hu
  · next hscheme =>
    split at h
    · rw [afterSlashes_scheme h] at hspecial
      exact absurd hspecial hscheme
    · cases h
      exact absurd hspecial hscheme

/-- The request target of a URL of a scheme that is known, and its host, are written in
visible characters. -/
theorem parse_visible {text : String} {u : Url} (h : parse text = .ok u)
    (hspecial : isSpecial u.scheme = true) :
    (∀ c ∈ u.target, Visible c) ∧ ∀ host, u.host = some host → ∀ c ∈ host.render, Visible c := by
  have hu := parse_special h hspecial
  obtain ⟨text, hpath⟩ := hu.path
  obtain ⟨query, hquery⟩ := hu.query
  obtain ⟨place, host, hhost, hsome⟩ := hu.host
  refine ⟨fun c hc => ?_, fun host' hhost' c hc => ?_⟩
  · unfold target at hc
    dsimp only at hc
    rcases List.mem_append.1 hc with hc | hc
    · split at hc
      · rw [List.mem_singleton.1 hc]
        decide
      · rw [hpath] at hc
        obtain ⟨segment, hsegment, hc⟩ := List.mem_flatMap.1 hc
        rcases List.mem_cons.1 hc with rfl | hc
        · decide
        · exact Path.visible_read hsegment hc
    · rw [hquery] at hc
      cases query with
      | none => cases hc
      | some query =>
        rcases List.mem_cons.1 hc with rfl | hc
        · decide
        · exact visible_percentEncode (space_mem_querySet true) hc
  · rw [hsome] at hhost'
    cases hhost'
    exact Host.visible_render (Host.known_of_parse hhost) hc

end Http1Client.Url
