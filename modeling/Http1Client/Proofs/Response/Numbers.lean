import Http1Client.Proofs.Response.Receiving
import Http1Client.Proofs.Text.Spelling
import Http1Client.Response.Draft
import Http1Client.Response.Framing

/-!
# The numbers that say where a body ends

A body ends where Content-Length or the size line of a chunk says. Each of these numbers is
accepted exactly if its text `Text.Reads` as one, and is a fault of the response otherwise
(`choose_sized_iff`, `choose_error`, `receive_size`, `receive_not_size`). The grammar has
fewer spellings. `framing_numbers` says which of the accepted ones it does not have: those
with a plus sign, or with a blank other than space and tab.
-/

namespace Http1Client

namespace Framing

/-! ## Lengths -/

/-- The fields say how long the body is: there is Content-Length, and nothing that goes
before it. -/
def Declares (method : Method) (code : Nat) (headers : Headers) : Prop :=
  bodiless method code = false ∧ headers.getAll "Transfer-Encoding" = [] ∧
    headers.getAll "Content-Length" ≠ []

/-- The members of all values of Content-Length. -/
def lengthMembers (headers : Headers) : List (List Char) :=
  (members (headers.getAll "Content-Length")).map (·.2)

theorem members_ne_nil {values : List String} (h : values ≠ []) : members values ≠ [] := by
  cases values with
  | nil => exact absurd rfl h
  | cons v values =>
    intro hnil
    simp only [members, List.flatMap_cons, List.append_eq_nil_iff, List.map_eq_nil_iff] at hnil
    exact List.splitOnP_ne_nil _ _ hnil.1

/-- A member that does not read as a number is a fault; another one has to agree with the
length already seen. -/
theorem agreedLength_cons (seen : Option Nat) (m : String × List Char)
    (ms : List (String × List Char)) :
    (∃ fault, agreedLength seen (m :: ms) = .error fault ∧ ∀ n, ¬ Text.Reads 10 m.2 n) ∨
      ∃ n, Text.Reads 10 m.2 n ∧
        ((seen = none ∨ seen = some n) ∧ agreedLength seen (m :: ms) = agreedLength (some n) ms ∨
          ∃ k fault, seen = some k ∧ k ≠ n ∧ agreedLength seen (m :: ms) = .error fault) := by
  obtain ⟨value, member⟩ := m
  rw [agreedLength]
  cases hnumeral : Text.numeral? 10 UInt64.size (Text.trim member) with
  | none =>
    refine .inl ⟨_, rfl, fun n hn => ?_⟩
    rw [(Text.numeral?_trim_iff (by omega)).2 hn] at hnumeral
    cases hnumeral
  | some n =>
    refine .inr ⟨n, (Text.numeral?_trim_iff (by omega)).1 hnumeral, ?_⟩
    cases seen with
    | none => exact .inl ⟨.inl rfl, rfl⟩
    | some k =>
      by_cases hk : k = n
      · exact .inl ⟨.inr (congrArg some hk), if_pos hk⟩
      · exact .inr ⟨k, _, rfl, hk, if_neg hk⟩

/-- Two numbers that a text reads as are one. -/
theorem reads_unique {s : List Char} {n k : Nat} (hn : Text.Reads 10 s n)
    (hk : Text.Reads 10 s k) : n = k := by
  have hn' := (Text.numeral?_trim_iff (by omega)).2 hn
  rw [(Text.numeral?_trim_iff (by omega)).2 hk] at hn'
  exact (Option.some.inj hn').symm

/-- Members agree on a length if each of them reads as it. -/
theorem agreedLength_some_iff {k n : Nat} {ms : List (String × List Char)} :
    agreedLength (some k) ms = .ok (some n) ↔ k = n ∧ ∀ m ∈ ms, Text.Reads 10 m.2 n := by
  induction ms generalizing k with
  | nil => simp [agreedLength]
  | cons m ms ih =>
    rw [List.forall_mem_cons]
    rcases agreedLength_cons (some k) m ms with
      ⟨fault, herror, hnot⟩ | ⟨j, hj, ⟨hseen, hrest⟩ | ⟨l, fault, hl, hne, herror⟩⟩
    · rw [herror]
      exact ⟨nofun, fun h => absurd h.2.1 (hnot n)⟩
    · have hkj : k = j := by
        rcases hseen with h | h
        · cases h
        · exact Option.some.inj h
      subst hkj
      rw [hrest, ih]
      exact ⟨fun h => ⟨h.1, h.1 ▸ hj, h.2⟩, fun h => ⟨h.1, h.2.2⟩⟩
    · rw [herror]
      refine ⟨nofun, fun h => absurd ?_ hne⟩
      rw [← Option.some.inj hl, h.1]
      exact reads_unique h.2.1 hj

theorem agreedLength_none_iff {n : Nat} {ms : List (String × List Char)} (hne : ms ≠ []) :
    agreedLength none ms = .ok (some n) ↔ ∀ m ∈ ms, Text.Reads 10 m.2 n := by
  cases ms with
  | nil => exact absurd rfl hne
  | cons m ms =>
    rw [List.forall_mem_cons]
    rcases agreedLength_cons none m ms with
      ⟨fault, herror, hnot⟩ | ⟨j, hj, ⟨-, hrest⟩ | ⟨l, fault, hl, -⟩⟩
    · rw [herror]
      exact ⟨nofun, fun h => absurd h.1 (hnot n)⟩
    · rw [hrest, agreedLength_some_iff]
      exact ⟨fun h => ⟨h.1 ▸ hj, h.2⟩, fun h => ⟨reads_unique hj h.1, h.2⟩⟩
    · cases hl

/-- Members agree on no length only if there are none. -/
theorem agreedLength_ne_none {seen : Option Nat} {ms : List (String × List Char)}
    (h : seen ≠ none ∨ ms ≠ []) : agreedLength seen ms ≠ .ok none := by
  induction ms generalizing seen with
  | nil =>
    rcases h with h | h
    · simpa [agreedLength] using h
    · exact absurd rfl h
  | cons m ms ih =>
    rcases agreedLength_cons seen m ms with
      ⟨fault, herror, -⟩ | ⟨j, -, ⟨-, hrest⟩ | ⟨l, fault, -, -, herror⟩⟩
    · rw [herror]
      exact nofun
    · rw [hrest]
      exact ih (.inl nofun)
    · rw [herror]
      exact nofun

/-- Where nothing goes before Content-Length, the members decide. -/
theorem choose_eq_agreedLength {method : Method} {code : Nat} {headers : Headers}
    (hbody : bodiless method code = false) (hcoding : headers.getAll "Transfer-Encoding" = []) :
    choose method code headers =
      match agreedLength none (members (headers.getAll "Content-Length")) with
      | .error fault => .error fault
      | .ok (some n) => .ok (.sized n)
      | .ok none => .ok .untilClose := by
  unfold choose
  rw [hbody, hcoding]
  rfl

theorem forall_lengthMembers {headers : Headers} {p : List Char → Prop} :
    (∀ m ∈ lengthMembers headers, p m) ↔
      ∀ m ∈ members (headers.getAll "Content-Length"), p m.2 :=
  List.forall_mem_map

/-- A length is chosen exactly if the fields declare one and each member reads as it. -/
theorem choose_sized_iff {method : Method} {code : Nat} {headers : Headers} {n : Nat} :
    choose method code headers = .ok (.sized n) ↔
      Declares method code headers ∧ ∀ m ∈ lengthMembers headers, Text.Reads 10 m n := by
  rw [forall_lengthMembers]
  constructor
  · intro h
    -- Each of the earlier rules would have chosen something else than a length.
    have hbody : bodiless method code = false := by
      by_contra hbody
      rw [choose, if_pos (Bool.not_eq_false _ ▸ hbody)] at h
      cases h
    have hcoding : headers.getAll "Transfer-Encoding" = [] := by
      by_contra hcoding
      obtain ⟨coding, hlast⟩ := Option.ne_none_iff_exists'.1
        (mt List.getLast?_eq_none_iff.1 hcoding)
      rw [choose, hbody, hlast] at h
      have hframing := Except.ok.inj h
      split at hframing <;> cases hframing
    rw [choose_eq_agreedLength hbody hcoding] at h
    have hvalues : headers.getAll "Content-Length" ≠ [] := by
      intro hnil
      rw [hnil] at h
      cases h
    refine ⟨⟨hbody, hcoding, hvalues⟩, (agreedLength_none_iff (members_ne_nil hvalues)).1 ?_⟩
    split at h
    · cases h
    · next hlength =>
      cases h
      exact hlength
    · cases h
  · rintro ⟨⟨hbody, hcoding, hvalues⟩, hreads⟩
    rw [choose_eq_agreedLength hbody hcoding,
      (agreedLength_none_iff (members_ne_nil hvalues)).2 hreads]

/-- Fields that declare a length on which their members do not agree are a fault. -/
theorem choose_error {method : Method} {code : Nat} {headers : Headers}
    (h : Declares method code headers)
    (hnot : ¬ ∃ n, ∀ m ∈ lengthMembers headers, Text.Reads 10 m n) :
    ∃ fault, choose method code headers = .error fault := by
  obtain ⟨hbody, hcoding, hvalues⟩ := h
  have hne := members_ne_nil hvalues
  rw [choose_eq_agreedLength hbody hcoding]
  cases hlength : agreedLength none (members (headers.getAll "Content-Length")) with
  | error fault => exact ⟨fault, rfl⟩
  | ok length =>
    cases length with
    | none => exact absurd hlength (agreedLength_ne_none (.inr hne))
    | some n =>
      exact absurd ⟨n, forall_lengthMembers.2 ((agreedLength_none_iff hne).1 hlength)⟩ hnot

/-- A plus sign is read over, and the grammar has none. -/
theorem choose_plus_sign :
    choose .get 200 ⟨[⟨"Content-Length", "+5"⟩]⟩ = .ok (.sized 5) ∧
      ∀ n, ¬ Text.Spelled 10 "+5".toList n := by
  refine ⟨by decide, fun n hn => ?_⟩
  have hplain := ((Text.spelled_iff (by omega)).1 hn).2
  exact (hplain '+' (by decide)).1 rfl

end Framing

namespace Decoder

/-! ## Sizes of chunks -/

variable {σ : Type} {bytes left : Bytes} {text : List Char} {n : Nat}

theorem onSizeLine_of_reads (h : Text.Reads 16 (Text.cutAt ';' text).1 n) :
    onSizeLine text = .ok (if n = 0 then .trailers else .chunkData n, []) := by
  unfold onSizeLine
  dsimp only
  rw [(Text.numeral?_trim_iff (Nat.le_refl _)).2 h]
  cases n with
  | zero => rfl
  | succ n => rfl

theorem onSizeLine_error (h : ∀ n, ¬ Text.Reads 16 (Text.cutAt ';' text).1 n) :
    ∃ fault, onSizeLine text = .error fault := by
  unfold onSizeLine
  dsimp only
  cases hnumeral : Text.numeral? 16 UInt64.size (Text.trim (Text.cutAt ';' text).1) with
  | none => exact ⟨_, rfl⟩
  | some n => exact absurd ((Text.numeral?_trim_iff (Nat.le_refl _)).1 hnumeral) (h n)

/-- A size that reads as a number is accepted: the decoder goes on behind its line. -/
theorem receive_size (c : Collector σ) (s : σ) (hline : takeLine .chunkSize bytes = .line text left)
    (h : Text.Reads 16 (Text.cutAt ';' text).1 n) :
    receive c .chunkSize bytes s =
      receive c (if n = 0 then .trailers else .chunkData n) left s := by
  have hpass : pass .chunkSize bytes = .go (if n = 0 then .trailers else .chunkData n) left [] :=
    pass_of_goes (.line rfl hline (onSizeLine_of_reads h))
  exact receive_of_go hpass rfl

/-- Any other size fails, and so does a line that cannot be taken. -/
theorem receive_not_size (c : Collector σ) (s : σ) {k : Nat} (hend : bytes.crlfAt? = some k)
    (h : ∀ text left, takeLine .chunkSize bytes = .line text left →
      ∀ n, ¬ Text.Reads 16 (Text.cutAt ';' text).1 n) :
    ∃ fault left, receive c .chunkSize bytes s =
      ⟨.chunkSize, left, s, some (Fault.toFailure fault)⟩ := by
  obtain ⟨fault, left, hstops⟩ : ∃ fault left, Stops .chunkSize bytes fault left := by
    cases hcut : takeLine .chunkSize bytes with
    | wait =>
      unfold takeLine at hcut
      rw [hend] at hcut
      dsimp only at hcut
      split at hcut
      · cases hcut
      · split at hcut <;> cases hcut
    | bad fault left => exact ⟨fault, left, .badLine rfl hcut⟩
    | line text left =>
      obtain ⟨fault, huse⟩ := onSizeLine_error (h text left hcut)
      exact ⟨fault, left, .badUse rfl hcut huse⟩
  refine ⟨fault, left, ?_⟩
  rw [receive_eq, pass_of_stops hstops]

end Decoder

/-- Lengths and sizes are accepted exactly if they read as numbers, and everything else in
their place is a malformed response. What reads as a number is spelled by the grammar exactly
if there is no plus sign in it and no blank but space and tab. -/
theorem framing_numbers {σ : Type} (method : Method) (code : Nat) (headers : Headers)
    (c : Collector σ) (s : σ) (bytes : Bytes) :
    (∀ n, Framing.choose method code headers = .ok (.sized n) ↔
      Framing.Declares method code headers ∧
        ∀ m ∈ Framing.lengthMembers headers, Text.Reads 10 m n) ∧
    (Framing.Declares method code headers →
      (¬ ∃ n, ∀ m ∈ Framing.lengthMembers headers, Text.Reads 10 m n) →
        ∃ detail, (Framing.choose method code headers).mapError Fault.toFailure =
          .error (.malformed detail)) ∧
    (∀ k, bytes.crlfAt? = some k →
      (∃ text left n, takeLine .chunkSize bytes = .line text left ∧
        Text.Reads 16 (Text.cutAt ';' text).1 n ∧
        Decoder.receive c .chunkSize bytes s =
          Decoder.receive c (if n = 0 then .trailers else .chunkData n) left s) ∨
      ((∀ text left, takeLine .chunkSize bytes = .line text left →
          ∀ n, ¬ Text.Reads 16 (Text.cutAt ';' text).1 n) ∧
        ∃ left detail, Decoder.receive c .chunkSize bytes s =
          ⟨.chunkSize, left, s, some (.malformed detail)⟩)) ∧
    ∀ base text n, base ≤ 16 →
      (Text.Spelled base text n ↔ Text.Reads base text n ∧ Text.Plain text) := by
  refine ⟨fun n => Framing.choose_sized_iff, fun hdeclares hnot => ?_, fun k hend => ?_,
    fun base text n hbase => Text.spelled_iff hbase⟩
  · obtain ⟨fault, herror⟩ := Framing.choose_error hdeclares hnot
    exact ⟨fault.message, by rw [herror]; rfl⟩
  · -- A line that has ended is taken with a size that reads as a number, or it is not.
    by_cases hsize : ∃ text left n, takeLine .chunkSize bytes = .line text left ∧
        Text.Reads 16 (Text.cutAt ';' text).1 n
    · obtain ⟨text, left, n, hline, hreads⟩ := hsize
      exact .inl ⟨text, left, n, hline, hreads, Decoder.receive_size c s hline hreads⟩
    · have hnot : ∀ text left, takeLine .chunkSize bytes = .line text left →
          ∀ n, ¬ Text.Reads 16 (Text.cutAt ';' text).1 n := fun text left hline n hreads =>
        hsize ⟨text, left, n, hline, hreads⟩
      obtain ⟨fault, left, hfailed⟩ := Decoder.receive_not_size c s hend hnot
      exact .inr ⟨hnot, left, fault.message, hfailed⟩

/-- Two members for one length, of which the second has a plus sign, and a size that is no
number. -/
theorem framing_numbers_loose :
    let headers : Headers := ⟨[⟨"content-length", "\t7 , +7"⟩]⟩
    let bytes := Utf8.encode "zz" ++ (Bytes.crlf ++ [])
    (Framing.choose .get 200 headers = .ok (.sized 7) ∧
      ∀ m ∈ Framing.lengthMembers headers, Text.Reads 10 m 7) ∧
    (¬ Text.Spelled 10 " +7".toList 7) ∧
    bytes.crlfAt? = some 2 ∧ ∃ left detail, Decoder.receive Draft.collector .chunkSize bytes
      (.start 9) = ⟨.chunkSize, left, .start 9, some (.malformed detail)⟩ := by
  intro headers bytes
  obtain ⟨hlength, -, hsize, hspelled⟩ :=
    framing_numbers .get 200 headers Draft.collector (.start 9) bytes
  have hchoose : Framing.choose .get 200 headers = .ok (.sized 7) := by decide
  have hend : bytes.crlfAt? = some 2 := by decide
  refine ⟨⟨hchoose, ((hlength 7).1 hchoose).2⟩, fun h => ?_, hend, ?_⟩
  · have hplain := ((hspelled 10 _ 7 (by omega)).1 h).2
    exact (hplain '+' (by decide)).1 rfl
  · have hline : takeLine .chunkSize bytes = .line "zz".toList [] :=
      takeLine_line (by decide) (by decide) []
    rcases hsize 2 hend with ⟨text, left, n, hcut, hreads, -⟩ | ⟨-, hfailed⟩
    · rw [hline] at hcut
      cases hcut
      have hnumeral := (Text.numeral?_trim_iff (Nat.le_refl _)).2 hreads
      have hnone : Text.numeral? 16 UInt64.size
          (Text.trim (Text.cutAt ';' "zz".toList).1) = none := by decide
      rw [hnone] at hnumeral
      cases hnumeral
    · exact hfailed

end Http1Client
