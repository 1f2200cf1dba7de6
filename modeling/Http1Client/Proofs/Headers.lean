import Http1Client.Headers

/-!
# What is in a list of header fields

Setting a field takes away all others of its name and adds itself (`mem_set`), so that it is
the only one of its name (`fieldsOf_set`). Names that differ have nothing to do with each other:
whatever is selected by other names stays as it is, in its order (`filter_set`,
`filter_without`).
-/

namespace Http1Client

/-- A field that answers to two names shows that they are the same but for case. -/
theorem Field.named_trans {f : Field} {name other : String} (h : f.named name = true)
    (h' : f.named other = true) : Text.sameFolded name other = true := by
  rw [named, Text.sameFolded_iff] at h h'
  rw [Text.sameFolded_iff, ← h, h']

theorem Field.not_named_of_ne {name other : String} (hne : Text.sameFolded name other = false)
    {f : Field} (h : f.named name = true) : f.named other = false := by
  rw [Bool.eq_false_iff]
  intro hother
  exact absurd (hne.symm.trans (named_trans h hother)) Bool.false_ne_true

theorem Field.named_self (f : Field) : f.named f.name = true := Text.sameFolded_refl f.name

namespace Headers

/-- The fields of a name, in order. -/
def fieldsOf (h : Headers) (name : String) : List Field := h.fields.filter (·.named name)

variable {h : Headers} {name other value : String} {f : Field} {p : Field → Bool}

theorem mem_place {g : Field} {fields : List Field} :
    f ∈ place g fields ↔ f = g ∨ f ∈ fields ∧ f.named g.name = false := by
  induction fields with
  | nil => simp [place]
  | cons a fields ih =>
    rw [place]
    by_cases ha : a.named g.name = true
    · rw [if_pos ha, List.mem_cons, List.mem_filter, List.mem_cons, Bool.not_eq_true']
      constructor
      · rintro (hf | ⟨hf, hother⟩)
        · exact .inl hf
        · exact .inr ⟨.inr hf, hother⟩
      · rintro (hf | ⟨rfl | hf, hother⟩)
        · exact .inl hf
        · rw [ha] at hother
          cases hother
        · exact .inr ⟨hf, hother⟩
    · rw [if_neg ha, List.mem_cons, ih, List.mem_cons]
      have ha' : a.named g.name = false := Bool.eq_false_iff.2 ha
      constructor
      · rintro (rfl | hf | ⟨hf, hother⟩)
        · exact .inr ⟨.inl rfl, ha'⟩
        · exact .inl hf
        · exact .inr ⟨.inr hf, hother⟩
      · rintro (hf | ⟨rfl | hf, hother⟩)
        · exact .inr (.inl hf)
        · exact .inl rfl
        · exact .inr (.inr ⟨hf, hother⟩)

/-- After a field is set there are the field and those of other names. -/
theorem mem_set : f ∈ (h.set name value).fields ↔
    f = ⟨name, value⟩ ∨ f ∈ h.fields ∧ f.named name = false := mem_place

theorem mem_without : f ∈ (h.without name).fields ↔ f ∈ h.fields ∧ f.named name = false := by
  show f ∈ h.fields.filter (!·.named name) ↔ _
  rw [List.mem_filter, Bool.not_eq_true']

theorem filter_place (g : Field) (fields : List Field) :
    (place g fields).filter (·.named g.name) = [g] := by
  have hself := g.named_self
  induction fields with
  | nil => rw [place, List.filter_cons, if_pos hself, List.filter_nil]
  | cons a fields ih =>
    rw [place]
    by_cases ha : a.named g.name = true
    · rw [if_pos ha, List.filter_cons, if_pos hself, List.filter_filter]
      simp
    · rw [if_neg ha, List.filter_cons, if_neg ha, ih]

/-- After a field is set it is the only one of its name. -/
theorem fieldsOf_set : (h.set name value).fieldsOf name = [⟨name, value⟩] :=
  filter_place ⟨name, value⟩ h.fields

theorem fieldsOf_without : (h.without name).fieldsOf name = [] :=
  List.filter_eq_nil_iff.2 fun _ hf => Bool.eq_false_iff.1 (mem_without.1 hf).2

theorem getAll_set : (h.set name value).getAll name = [value] :=
  congrArg (List.map Field.value) fieldsOf_set

theorem getAll_without : (h.without name).getAll name = [] :=
  congrArg (List.map Field.value) fieldsOf_without

/-! ## Fields of other names -/

theorem filter_filter_named (hp : ∀ f, f.named name = true → p f = false) (fields : List Field) :
    (fields.filter (!·.named name)).filter p = fields.filter p := by
  rw [List.filter_filter]
  refine List.filter_congr fun f _ => ?_
  by_cases hf : f.named name = true
  · rw [hp f hf, Bool.false_and]
  · rw [Bool.eq_false_iff.2 hf, Bool.not_false, Bool.and_true]

/-- Fields that are selected by other names stay as they are when a field is set. -/
theorem filter_place_of_ne {g : Field} (hp : ∀ f, f.named g.name = true → p f = false)
    (fields : List Field) : (place g fields).filter p = fields.filter p := by
  have hg : ¬ p g = true := Bool.eq_false_iff.1 (hp g g.named_self)
  induction fields with
  | nil => rw [place, List.filter_cons_of_neg hg]
  | cons a fields ih =>
    rw [place]
    by_cases ha : a.named g.name = true
    · rw [if_pos ha, List.filter_cons_of_neg hg, filter_filter_named hp,
        List.filter_cons_of_neg (Bool.eq_false_iff.1 (hp a ha))]
    · rw [if_neg ha, List.filter_cons, List.filter_cons, ih]

theorem filter_set (hp : ∀ f, f.named name = true → p f = false) :
    (h.set name value).fields.filter p = h.fields.filter p := filter_place_of_ne hp h.fields

theorem filter_without (hp : ∀ f, f.named name = true → p f = false) :
    (h.without name).fields.filter p = h.fields.filter p := filter_filter_named hp h.fields

/-! ## Whether there is a field -/

theorem contains_iff : h.contains name = true ↔ ∃ f ∈ h.fields, f.named name = true :=
  List.any_eq_true

theorem contains_eq_false_iff : h.contains name = false ↔ h.fieldsOf name = [] := by
  rw [contains, List.any_eq_false, fieldsOf, List.filter_eq_nil_iff]

theorem contains_iff_fieldsOf : h.contains name = true ↔ h.fieldsOf name ≠ [] := by
  rw [ne_eq, ← contains_eq_false_iff, Bool.not_eq_false]

/-- Whether a name occurs does not depend on fields of other names. -/
theorem contains_set_of_ne (hne : Text.sameFolded name other = false) :
    (h.set name value).contains other = h.contains other := by
  have hother : (h.set name value).fieldsOf other = h.fieldsOf other :=
    filter_set fun _ => Field.not_named_of_ne hne
  rw [Bool.eq_iff_iff, contains_iff_fieldsOf, contains_iff_fieldsOf, hother]

theorem place_of_absent {g : Field} {fields : List Field}
    (habsent : ∀ f ∈ fields, ¬ f.named g.name = true) : place g fields = fields ++ [g] := by
  induction fields with
  | nil => rfl
  | cons a fields ih =>
    rw [place, if_neg (habsent a List.mem_cons_self),
      ih fun f hf => habsent f (List.mem_cons_of_mem _ hf), List.cons_append]

/-- A field of which the name does not occur is set behind all others. -/
theorem fields_set_of_absent (habsent : h.contains name = false) :
    (h.set name value).fields = h.fields ++ [⟨name, value⟩] :=
  place_of_absent (List.any_eq_false.1 habsent)

/-! ## Edits of which the outcome is there already -/

/-- A field that is the only one of its name is put where it stands. -/
theorem place_of_only {g : Field} {fields : List Field}
    (honly : fields.filter (·.named g.name) = [g]) : place g fields = fields := by
  induction fields with
  | nil => cases honly
  | cons a fields ih =>
    rw [place]
    by_cases ha : a.named g.name = true
    · rw [List.filter_cons, if_pos ha, List.cons.injEq] at honly
      obtain ⟨rfl, hrest⟩ := honly
      have hother : ∀ f ∈ fields, (!f.named a.name) = true := by
        intro f hf
        rw [Bool.not_eq_true', Bool.eq_false_iff]
        exact List.filter_eq_nil_iff.1 hrest f hf
      rw [if_pos ha, List.filter_eq_self.2 hother]
    · rw [List.filter_cons, if_neg ha] at honly
      rw [if_neg ha, ih honly]

/-- Setting the only field of a name to what it is changes nothing. -/
theorem set_of_only (honly : h.fieldsOf name = [⟨name, value⟩]) : h.set name value = h :=
  congrArg Headers.mk (place_of_only honly)

/-- Removing a name that does not occur changes nothing. -/
theorem without_of_absent (habsent : h.fieldsOf name = []) : h.without name = h := by
  refine congrArg Headers.mk (List.filter_eq_self.2 fun f hf => ?_)
  rw [Bool.not_eq_true', Bool.eq_false_iff]
  exact List.filter_eq_nil_iff.1 habsent f hf

end Headers

end Http1Client
