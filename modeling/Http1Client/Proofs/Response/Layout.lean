import Http1Client.Proofs.Headers
import Http1Client.Proofs.Response.Numbers
import Mathlib.Logic.Relation

/-!
# The layout of the framing fields

Transfer-Encoding and Content-Length are lists, and a list may stand in one field or in several.
How the body ends does not depend on that: `choose` looks at the last member of all of
Transfer-Encoding, and at the members of Content-Length as a set (`Alike`, `choose_of_alike`). So
nothing changes when the lines of a list are joined, when the lengths change places, when names
change their case, or by fields that say nothing about the body (`Relaid`, `choose_layout`).
-/

namespace Http1Client.Framing

/-- One change of the layout of the framing fields. -/
inductive Relaid : Headers → Headers → Prop where
  /-- The lines of one of the two fields are joined in order, with a comma and maybe blanks
  between them. -/
  | joined (h : Headers) (name pad : String)
      (hname : name = "Transfer-Encoding" ∨ name = "Content-Length")
      (hpresent : h.contains name = true) (hpad : ∀ c ∈ pad.toList, Text.isBlank c = true) :
      Relaid h (h.set name (("," ++ pad).intercalate (h.getAll name)))
  /-- Lengths change places with each other, and other fields come, go or move. -/
  | moved {h h' : Headers}
      (hcoding : h.fieldsOf "Transfer-Encoding" = h'.fieldsOf "Transfer-Encoding")
      (hlengths : (h.fieldsOf "Content-Length").Perm (h'.fieldsOf "Content-Length")) :
      Relaid h h'
  /-- Names change their case. -/
  | recased {h h' : Headers}
      (hfields : List.Forall₂ (fun f g => Text.sameFolded f.name g.name = true ∧ f.value = g.value)
        h.fields h'.fields) :
      Relaid h h'

/-- Two answers are the same framing, or both that the response is malformed. -/
inductive SameAnswer : Except Failure Framing → Except Failure Framing → Prop where
  | framing (f : Framing) : SameAnswer (.ok f) (.ok f)
  | malformed (detail detail' : String) :
      SameAnswer (.error (.malformed detail)) (.error (.malformed detail'))

/-! ## What decides -/

/-- The members of the values without the blanks around them. -/
def bareMembers (values : List String) : List (List Char) :=
  values.flatMap fun v => (Text.split ',' v.toList).map Text.trim

/-- The last member of Transfer-Encoding is the same, and so are the members of Content-Length as
a set. -/
structure Alike (h h' : Headers) : Prop where
  coding : (bareMembers (h.getAll "Transfer-Encoding")).getLast? =
    (bareMembers (h'.getAll "Transfer-Encoding")).getLast?
  lengths : ∀ m, m ∈ bareMembers (h.getAll "Content-Length") ↔
    m ∈ bareMembers (h'.getAll "Content-Length")

variable {method : Method} {code : Nat} {h h' : Headers} {values : List String}

theorem bareMembers_eq (values : List String) :
    bareMembers values = (members values).map fun m => Text.trim m.2 := by
  rw [bareMembers, members, List.map_flatMap]
  simp only [List.map_map]
  rfl

theorem bareMembers_eq_nil_iff : bareMembers values = [] ↔ values = [] := by
  constructor
  · intro hbare
    by_contra hvalues
    rw [bareMembers_eq, List.map_eq_nil_iff] at hbare
    exact members_ne_nil hvalues hbare
  · rintro rfl
    rfl

/-- The last member of all values is the last one of the last value. -/
theorem getLast?_bareMembers (values : List String) :
    (bareMembers values).getLast? = values.getLast?.map lastMember := by
  induction values using List.reverseRecOn with
  | nil => rfl
  | append_singleton values v ih =>
    have hne : Text.split ',' v.toList ≠ [] := List.splitOnP_ne_nil _ _
    have hlast : (Text.split ',' v.toList).getLast? =
        some ((Text.split ',' v.toList).getLastD []) := by
      rw [List.getLastD_eq_getLast?, List.getLast?_eq_some_getLast hne, Option.getD_some]
    rw [bareMembers, List.flatMap_append, List.flatMap_singleton, List.getLast?_append,
      List.getLast?_map, hlast, List.getLast?_concat]
    rfl

theorem forall_lengthMembers_iff {n : Nat} : (∀ m ∈ lengthMembers h, Text.Reads 10 m n) ↔
    ∀ m ∈ bareMembers (h.getAll "Content-Length"), Text.numeral? 10 UInt64.size m = some n := by
  rw [forall_lengthMembers, bareMembers_eq, List.forall_mem_map]
  exact forall₂_congr fun m _ => (Text.numeral?_trim_iff (by omega)).symm

/-- The last member of Transfer-Encoding decides if there is one. -/
theorem choose_eq_of_coding {m : List Char} (hbody : bodiless method code = false)
    (hcoding : (bareMembers (h.getAll "Transfer-Encoding")).getLast? = some m) :
    choose method code h =
      .ok (if Text.lower m == "chunked".toList then .chunked else .untilClose) := by
  rw [getLast?_bareMembers, Option.map_eq_some_iff] at hcoding
  obtain ⟨value, hvalue, rfl⟩ := hcoding
  rw [choose, hbody, hvalue]
  rfl

/-- Without either field the body goes on until the peer closes. -/
theorem choose_untilClose (hbody : bodiless method code = false)
    (hcoding : h.getAll "Transfer-Encoding" = []) (hlengths : h.getAll "Content-Length" = []) :
    choose method code h = .ok .untilClose := by
  rw [choose_eq_agreedLength hbody hcoding, hlengths]
  rfl

namespace Alike

theorem refl (h : Headers) : Alike h h := ⟨rfl, fun _ => Iff.rfl⟩

theorem symm (halike : Alike h h') : Alike h' h :=
  ⟨halike.coding.symm, fun m => (halike.lengths m).symm⟩

theorem trans {h'' : Headers} (halike : Alike h h') (halike' : Alike h' h'') : Alike h h'' :=
  ⟨halike.coding.trans halike'.coding, fun m => (halike.lengths m).trans (halike'.lengths m)⟩

theorem coding_eq_nil_iff (halike : Alike h h') :
    h.getAll "Transfer-Encoding" = [] ↔ h'.getAll "Transfer-Encoding" = [] := by
  rw [← bareMembers_eq_nil_iff, ← bareMembers_eq_nil_iff, ← List.getLast?_eq_none_iff,
    halike.coding, List.getLast?_eq_none_iff]

theorem lengths_eq_nil_iff (halike : Alike h h') :
    h.getAll "Content-Length" = [] ↔ h'.getAll "Content-Length" = [] := by
  rw [← bareMembers_eq_nil_iff, ← bareMembers_eq_nil_iff, List.eq_nil_iff_forall_not_mem,
    List.eq_nil_iff_forall_not_mem]
  exact forall_congr' fun m => not_congr (halike.lengths m)

theorem declares_iff (halike : Alike h h') :
    Declares method code h ↔ Declares method code h' :=
  and_congr Iff.rfl (and_congr halike.coding_eq_nil_iff (not_congr halike.lengths_eq_nil_iff))

theorem reads_iff (halike : Alike h h') {n : Nat} :
    (∀ m ∈ lengthMembers h, Text.Reads 10 m n) ↔ ∀ m ∈ lengthMembers h', Text.Reads 10 m n := by
  rw [forall_lengthMembers_iff, forall_lengthMembers_iff]
  exact forall_congr' fun m => imp_congr_left (halike.lengths m)

end Alike

/-- Fields that are alike get the same answer. -/
theorem choose_of_alike (halike : Alike h h') :
    SameAnswer ((choose method code h).mapError Fault.toFailure)
      ((choose method code h').mapError Fault.toFailure) := by
  cases hbody : bodiless method code with
  | true =>
    rw [choose, choose, if_pos hbody, if_pos hbody]
    exact .framing .empty
  | false =>
    cases hlast : (bareMembers (h.getAll "Transfer-Encoding")).getLast? with
    | some m =>
      rw [choose_eq_of_coding hbody hlast, choose_eq_of_coding hbody (halike.coding ▸ hlast)]
      exact .framing _
    | none =>
      have hcoding := bareMembers_eq_nil_iff.1 (List.getLast?_eq_none_iff.1 hlast)
      by_cases hlengths : h.getAll "Content-Length" = []
      · rw [choose_untilClose hbody hcoding hlengths, choose_untilClose hbody
          (halike.coding_eq_nil_iff.1 hcoding) (halike.lengths_eq_nil_iff.1 hlengths)]
        exact .framing .untilClose
      · have hdeclares : Declares method code h := ⟨hbody, hcoding, hlengths⟩
        have hdeclares' := halike.declares_iff.1 hdeclares
        by_cases hreads : ∃ n, ∀ m ∈ lengthMembers h, Text.Reads 10 m n
        · obtain ⟨n, hn⟩ := hreads
          rw [choose_sized_iff.2 ⟨hdeclares, hn⟩,
            choose_sized_iff.2 ⟨hdeclares', halike.reads_iff.1 hn⟩]
          exact .framing (.sized n)
        · obtain ⟨fault, hfault⟩ := choose_error hdeclares hreads
          obtain ⟨fault', hfault'⟩ := choose_error hdeclares'
            (mt (exists_congr fun _ => halike.reads_iff).2 hreads)
          rw [hfault, hfault']
          exact .malformed fault.message fault'.message

/-! ## What a change of layout keeps -/

theorem getAll_congr {name : String} (hfields : h.fieldsOf name = h'.fieldsOf name) :
    h.getAll name = h'.getAll name :=
  congrArg (List.map Field.value) hfields

/-- Lines that are joined hold the members that they held. -/
theorem bareMembers_joined {pad : String} (hpad : ∀ c ∈ pad.toList, Text.isBlank c = true)
    (hvalues : values ≠ []) :
    bareMembers [("," ++ pad).intercalate values] = bareMembers values := by
  have hsep : ("," ++ pad).toList = ',' :: pad.toList := by
    rw [String.toList_append]
    rfl
  have hpieces : values.map String.toList ≠ [] := mt List.map_eq_nil_iff.1 hvalues
  have hcomma : Text.isBlank ',' = false := by decide
  rw [bareMembers, List.flatMap_singleton, String.toList_intercalate, hsep,
    Text.map_trim_split_intercalate hcomma hpad hpieces, List.flatMap_map]
  rfl

/-- Joining the lines of one name leaves the members of every name as they are. -/
theorem bareMembers_getAll_joined {name other pad : String} (hpresent : h.contains name = true)
    (hpad : ∀ c ∈ pad.toList, Text.isBlank c = true)
    (hother : other = name ∨ Text.sameFolded name other = false) :
    bareMembers ((h.set name (("," ++ pad).intercalate (h.getAll name))).getAll other) =
      bareMembers (h.getAll other) := by
  rcases hother with rfl | hne
  · have hvalues : h.getAll other ≠ [] :=
      mt List.map_eq_nil_iff.1 (Headers.contains_iff_fieldsOf.1 hpresent)
    rw [Headers.getAll_set, bareMembers_joined hpad hvalues]
  · rw [getAll_congr (Headers.filter_set fun _ => Field.not_named_of_ne hne)]

/-- Fields of which the names change their case have the values that they had. -/
theorem getAll_recased {fs gs : List Field} (hfields : List.Forall₂
      (fun f g => Text.sameFolded f.name g.name = true ∧ f.value = g.value) fs gs)
    (name : String) : Headers.getAll ⟨fs⟩ name = Headers.getAll ⟨gs⟩ name := by
  induction hfields with
  | nil => rfl
  | @cons f g fs gs hfg _ ih =>
    have hnamed : f.named name = g.named name := by
      rw [Bool.eq_iff_iff, Field.named, Field.named, Text.sameFolded_iff, Text.sameFolded_iff,
        Text.sameFolded_iff.1 hfg.1]
    unfold Headers.getAll at ih ⊢
    rw [List.filter_cons, List.filter_cons, hnamed]
    split
    · rw [List.map_cons, List.map_cons, hfg.2, ih]
    · exact ih

/-- Each change of layout leaves the fields alike. -/
theorem Relaid.alike (hrelaid : Relaid h h') : Alike h h' := by
  cases hrelaid with
  | joined name pad hname hpresent hpad =>
    have hcoding : "Transfer-Encoding" = name ∨
        Text.sameFolded name "Transfer-Encoding" = false := by
      rcases hname with rfl | rfl
      · exact .inl rfl
      · exact .inr (by decide)
    have hlengths : "Content-Length" = name ∨ Text.sameFolded name "Content-Length" = false := by
      rcases hname with rfl | rfl
      · exact .inr (by decide)
      · exact .inl rfl
    constructor
    · rw [bareMembers_getAll_joined hpresent hpad hcoding]
    · intro m
      rw [bareMembers_getAll_joined hpresent hpad hlengths]
  | moved hcoding hlengths =>
    have hvalues : (h.getAll "Content-Length").Perm (h'.getAll "Content-Length") :=
      hlengths.map Field.value
    exact ⟨by rw [getAll_congr hcoding], fun m => (hvalues.flatMap_right _).mem_iff⟩
  | recased hfields =>
    have hvalues (name : String) : h.getAll name = h'.getAll name := getAll_recased hfields name
    exact ⟨by rw [hvalues], fun m => by rw [hvalues]⟩

/-- And so do changes of layout one after another, there and back. -/
theorem alike_of_relaid (hrelaid : Relation.EqvGen Relaid h h') : Alike h h' := by
  induction hrelaid with
  | rel _ _ hrelaid => exact hrelaid.alike
  | refl h => exact .refl h
  | symm _ _ _ ih => exact ih.symm
  | trans _ _ _ _ _ ih ih' => exact ih.trans ih'

/-! ## Lengths that differ -/

/-- Two lengths that differ are a fault of a response that may have a body. -/
theorem choose_conflict {m m' : List Char} {n n' : Nat} (hbody : bodiless method code = false)
    (hcoding : h.getAll "Transfer-Encoding" = []) (hm : m ∈ lengthMembers h)
    (hm' : m' ∈ lengthMembers h) (hn : Text.Reads 10 m n) (hn' : Text.Reads 10 m' n')
    (hne : n ≠ n') : ∃ fault, choose method code h = .error fault := by
  have hlengths : h.getAll "Content-Length" ≠ [] := by
    intro hnil
    rw [lengthMembers, hnil] at hm
    cases hm
  refine choose_error ⟨hbody, hcoding, hlengths⟩ fun ⟨k, hk⟩ => hne ?_
  rw [reads_unique hn (hk m hm), reads_unique hn' (hk m' hm')]

/-- How the body ends does not depend on the layout of the framing fields. Without
Transfer-Encoding neither of two lengths that differ is chosen: the response is malformed, or it
has no body whatever its fields say. -/
theorem choose_layout (method : Method) (code : Nat) (headers : Headers) :
    (∀ other, Relation.EqvGen Relaid headers other →
      SameAnswer ((choose method code headers).mapError Fault.toFailure)
        ((choose method code other).mapError Fault.toFailure)) ∧
    (headers.getAll "Transfer-Encoding" = [] →
      ∀ m ∈ lengthMembers headers, ∀ m' ∈ lengthMembers headers, ∀ n n',
        Text.Reads 10 m n → Text.Reads 10 m' n' → n ≠ n' →
          (bodiless method code = true → choose method code headers = .ok .empty) ∧
          (bodiless method code = false →
            ∃ detail, (choose method code headers).mapError Fault.toFailure =
              .error (.malformed detail))) := by
  refine ⟨fun other hrelaid => choose_of_alike (alike_of_relaid hrelaid), ?_⟩
  intro hcoding m hm m' hm' n n' hn hn' hne
  refine ⟨fun hbody => if_pos hbody, fun hbody => ?_⟩
  obtain ⟨fault, hfault⟩ := choose_conflict hbody hcoding hm hm' hn hn' hne
  exact ⟨fault.message, by rw [hfault]; rfl⟩

/-- Lines that are joined, with another field taken away and the case of the name changed; and
lengths that differ, of which one stands second in its line. -/
theorem choose_layout_lines :
    let codings : Headers :=
      ⟨[⟨"Transfer-Encoding", "gzip"⟩, ⟨"Accept", "x"⟩, ⟨"transfer-encoding", "chunked"⟩]⟩
    let joined : Headers := ⟨[⟨"TRANSFER-ENCODING", "gzip, chunked"⟩]⟩
    let lengths : Headers := ⟨[⟨"Content-Length", "5"⟩, ⟨"content-length", " 05 , 6"⟩]⟩
    (Relation.EqvGen Relaid codings joined ∧
      SameAnswer ((choose .get 200 codings).mapError Fault.toFailure)
        ((choose .get 200 joined).mapError Fault.toFailure)) ∧
    lengths.getAll "Transfer-Encoding" = [] ∧
    ("5".toList ∈ lengthMembers lengths ∧ Text.Reads 10 "5".toList 5) ∧
    (" 6".toList ∈ lengthMembers lengths ∧ Text.Reads 10 " 6".toList 6) ∧
    (bodiless .get 200 = false ∧
      ∃ detail, (choose .get 200 lengths).mapError Fault.toFailure = .error (.malformed detail)) ∧
    bodiless .head 200 = true ∧ choose .head 200 lengths = .ok .empty := by
  intro codings joined lengths
  have hrelaid : Relation.EqvGen Relaid codings joined := by
    have hset : codings.set "Transfer-Encoding" (("," ++ " ").intercalate
          (codings.getAll "Transfer-Encoding")) =
        ⟨[⟨"Transfer-Encoding", "gzip, chunked"⟩, ⟨"Accept", "x"⟩]⟩ := by
      decide
    have hjoined : Relaid codings ⟨[⟨"Transfer-Encoding", "gzip, chunked"⟩, ⟨"Accept", "x"⟩]⟩ :=
      hset ▸ .joined codings "Transfer-Encoding" " " (.inl rfl) (by decide)
        (List.all_eq_true.1 (by decide))
    have hmoved : Relaid ⟨[⟨"Transfer-Encoding", "gzip, chunked"⟩, ⟨"Accept", "x"⟩]⟩
        ⟨[⟨"Transfer-Encoding", "gzip, chunked"⟩]⟩ :=
      .moved (by decide) (by decide)
    have hrecased : Relaid ⟨[⟨"Transfer-Encoding", "gzip, chunked"⟩]⟩ joined :=
      .recased (.cons ⟨by decide, rfl⟩ .nil)
    exact .trans _ _ _ (.rel _ _ hjoined) (.trans _ _ _ (.rel _ _ hmoved) (.rel _ _ hrecased))
  have hcoding : lengths.getAll "Transfer-Encoding" = [] := by decide
  have h5 : "5".toList ∈ lengthMembers lengths := by decide
  have h6 : " 6".toList ∈ lengthMembers lengths := by decide
  have hreads5 : Text.Reads 10 "5".toList 5 :=
    (Text.numeral?_trim_iff (by omega)).1 (by decide)
  have hreads6 : Text.Reads 10 " 6".toList 6 :=
    (Text.numeral?_trim_iff (by omega)).1 (by decide)
  have hdiffer (method : Method) := (choose_layout method 200 lengths).2 hcoding
    _ h5 _ h6 5 6 hreads5 hreads6 (by decide)
  exact ⟨⟨hrelaid, (choose_layout .get 200 codings).1 joined hrelaid⟩, hcoding, ⟨h5, hreads5⟩,
    ⟨h6, hreads6⟩, ⟨rfl, (hdiffer .get).2 rfl⟩, rfl, (hdiffer .head).1 rfl⟩

/-- Two lengths that differ are no fault of an answer to HEAD: it has no body. -/
theorem choose_head_conflict :
    let headers : Headers := ⟨[⟨"Content-Length", "5"⟩, ⟨"Content-Length", "6"⟩]⟩
    headers.getAll "Transfer-Encoding" = [] ∧
      ("5".toList ∈ lengthMembers headers ∧ Text.Reads 10 "5".toList 5) ∧
      ("6".toList ∈ lengthMembers headers ∧ Text.Reads 10 "6".toList 6) ∧
      (choose .head 200 headers = .ok .empty ∧
        ¬ ∃ fault, choose .head 200 headers = .error fault) := by
  intro headers
  have hchoose : choose .head 200 headers = .ok .empty := rfl
  refine ⟨by decide, ⟨by decide, ?_⟩, ⟨by decide, ?_⟩, hchoose, ?_⟩
  · exact (Text.numeral?_trim_iff (by omega)).1 (by decide)
  · exact (Text.numeral?_trim_iff (by omega)).1 (by decide)
  · rintro ⟨fault, hfault⟩
    rw [hchoose] at hfault
    cases hfault

end Http1Client.Framing
