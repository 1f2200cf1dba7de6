import Http1Client.Proofs.Headers.Seat

/-!
# Fields are a multi-map

A list of fields stands for a map from names, but for case, to lists of values. Every edit changes
the values of its own name only, and changes them as if there were no other names
(`getAll_edit_of_concerns`, `getAll_edit_of_other`); so after any edits the values of a name are
what the edits of that name make of those that were there (`getAll_edited`). All other readers
follow from the values and from the fields that stand first of their names: `Lists` says what the
list of names is, and each further field keeps it (`Lists.concat_seen`, `Lists.concat_new`).
-/

namespace Http1Client

/-- One edit of a list of fields. -/
inductive Edit
  | add (name value : String)
  | set (name value : String)
  | remove (name : String)

/-- The name that an edit is about. -/
def Edit.name : Edit → String
  | add name _ => name
  | set name _ => name
  | remove name => name

/-- The edit is about the name, but for case. -/
def Edit.concerns (e : Edit) (name : String) : Bool := Text.sameFolded e.name name

/-- What an edit makes of the values of its name. -/
def Edit.values (values : List String) : Edit → List String
  | add _ value => values ++ [value]
  | set _ value => [value]
  | remove _ => []

namespace Headers

variable {h : Headers} {name other value : String}

/-- The fields after an edit. -/
def edit (h : Headers) : Edit → Headers
  | .add name value => h.add name value
  | .set name value => h.set name value
  | .remove name => h.without name

/-- The fields after edits in order. -/
def edited (h : Headers) (edits : List Edit) : Headers := edits.foldl edit h

/-! ## The values of a name -/

theorem getAll_eq : h.getAll name = (h.fieldsOf name).map (·.value) := rfl

/-- An edit of the name, in whatever casing, does to its values what the edit says. -/
theorem getAll_edit_of_concerns {e : Edit} (he : e.concerns name = true) :
    (h.edit e).getAll name = e.values (h.getAll name) := by
  have hnamed (f : Field) : f.named e.name = f.named name := Field.named_congr he f
  have hcasing (k : Headers) : k.getAll e.name = k.getAll name :=
    congrArg (List.map Field.value) (List.filter_congr fun f _ => hnamed f)
  cases e with
  | add own value =>
    have hown : Field.named ⟨own, value⟩ name = true := he
    show ((h.fields ++ [Field.mk own value]).filter (·.named name)).map (·.value) = _
    rw [List.filter_append, List.filter_cons, if_pos hown, List.filter_nil, List.map_append]
    rfl
  | set own value =>
    show (h.set own value).getAll name = [value]
    rw [← hcasing]
    exact getAll_set
  | remove own =>
    show (h.without own).getAll name = []
    rw [← hcasing]
    exact getAll_without

/-- An edit of another name does nothing to the values. -/
theorem getAll_edit_of_other {e : Edit} (he : e.concerns name = false) :
    (h.edit e).getAll name = h.getAll name := by
  have hother : ∀ f : Field, f.named e.name = true → f.named name = false := by
    intro f hf
    exact Field.not_named_of_ne he hf
  have hfields : (h.edit e).fieldsOf name = h.fieldsOf name := by
    cases e with
    | add own value =>
      have hown : ¬ Field.named ⟨own, value⟩ name = true := Bool.eq_false_iff.1 he
      show (h.fields ++ [Field.mk own value]).filter (·.named name) = h.fieldsOf name
      rw [List.filter_append, List.filter_cons, if_neg hown, List.filter_nil, List.append_nil]
      rfl
    | set own value => exact filter_set hother
    | remove own => exact filter_without hother
  rw [getAll_eq, getAll_eq, hfields]

/-- The values of a name after edits are made by the edits of that name alone. -/
theorem getAll_edited (h : Headers) (edits : List Edit) (name : String) :
    (h.edited edits).getAll name =
      (edits.filter (·.concerns name)).foldl Edit.values (h.getAll name) := by
  induction edits generalizing h with
  | nil => rfl
  | cons e edits ih =>
    show ((h.edit e).edited edits).getAll name = _
    rw [ih, List.filter_cons]
    by_cases he : e.concerns name = true
    · rw [if_pos he, List.foldl_cons, getAll_edit_of_concerns he]
    · rw [if_neg he, getAll_edit_of_other (Bool.eq_false_iff.2 he)]

/-! ## What is read from the values -/

theorem get?_eq_head? : h.get? name = (h.getAll name).head? := by
  show (h.fields.find? (·.named name)).map (·.value) = _
  rw [getAll_eq, List.head?_map, fieldsOf, List.head?_filter]

theorem contains_eq : h.contains name = !(h.getAll name).isEmpty := by
  rw [getAll_eq, List.isEmpty_map]
  cases hfields : h.fieldsOf name with
  | nil => exact contains_eq_false_iff.2 hfields
  | cons f fields =>
    refine contains_iff_fieldsOf.2 ?_
    rw [hfields]
    exact List.cons_ne_nil f fields

/-- Fields are removed exactly if some had the name. -/
theorem removed_eq_contains : (h.remove name).2 = h.contains name := by
  show ((h.fields.filter (!·.named name)).length != h.fields.length) = _
  rw [Bool.eq_iff_iff, bne_iff_ne, contains_iff, ne_eq, List.length_filter_eq_length_iff]
  simp

/-! ## The list of names -/

/-- Each name that fields have is listed once, but for case, as the first field of the name has it,
and the names are in the order of those fields. -/
structure Lists (fields : List Field) (names : List String) : Prop where
  once : ∀ name, names.filter (Text.sameFolded · name) =
    ((fields.find? (·.named name)).map (·.name)).toList
  ordered : (names.map fun name => fields.findIdx (·.named name)).Pairwise (· < ·)

/-- A name is listed exactly if some field has it. -/
theorem Lists.any_eq {fields : List Field} {names : List String} (hnames : Lists fields names)
    (name : String) : names.any (Text.sameFolded · name) = fields.any (·.named name) := by
  have honce := hnames.once name
  cases hfind : fields.find? (·.named name) with
  | none =>
    rw [hfind, Option.map_none, Option.toList_none, List.filter_eq_nil_iff] at honce
    rw [List.any_eq_false.2 honce, List.any_eq_false.2 (List.find?_eq_none.1 hfind)]
  | some f =>
    rw [hfind, Option.map_some, Option.toList_some] at honce
    have hlisted : f.name ∈ names.filter (Text.sameFolded · name) := by
      rw [honce]
      exact List.mem_singleton_self f.name
    rw [List.any_eq_true.2 ⟨f.name, List.mem_filter.1 hlisted⟩,
      List.any_eq_true.2 ⟨f, List.mem_of_find?_eq_some hfind, List.find?_some hfind⟩]

section Concat

variable {fields : List Field} {names : List String} {f : Field}

/-- A listed name has its first field among the fields there were, and it stays the first one. -/
theorem Lists.findIdx_concat (hnames : Lists fields names) (hname : name ∈ names) (f : Field) :
    fields.findIdx (·.named name) < fields.length ∧
      (fields ++ [f]).findIdx (·.named name) = fields.findIdx (·.named name) := by
  have hlisted : fields.any (·.named name) = true := by
    rw [← hnames.any_eq]
    exact List.any_eq_true.2 ⟨name, hname, Text.sameFolded_refl name⟩
  have hlt : fields.findIdx (·.named name) < fields.length :=
    List.findIdx_lt_length.2 (List.any_eq_true.1 hlisted)
  rw [List.findIdx_append, if_pos hlt]
  exact ⟨hlt, rfl⟩

theorem Lists.map_findIdx_concat (hnames : Lists fields names) (f : Field) :
    (names.map fun name => (fields ++ [f]).findIdx (·.named name)) =
      names.map fun name => fields.findIdx (·.named name) :=
  List.map_congr_left fun _ hname => (hnames.findIdx_concat hname f).2

/-- A further field of a listed name changes nothing. -/
theorem Lists.concat_seen (hnames : Lists fields names)
    (hseen : names.any (Text.sameFolded · f.name) = true) : Lists (fields ++ [f]) names := by
  constructor
  case once =>
    intro name
    rw [hnames.once, List.find?_append]
    cases hfind : fields.find? (·.named name) with
    | some g => rfl
    | none =>
      have hf : ¬ f.named name = true := by
        intro hf
        rw [hnames.any_eq] at hseen
        obtain ⟨g, hg, hgf⟩ := List.any_eq_true.1 hseen
        rw [Field.named_congr hf g] at hgf
        exact List.find?_eq_none.1 hfind g hg hgf
      rw [List.find?_cons_of_neg (p := (Field.named · name)) hf]
      rfl
  case ordered =>
    rw [hnames.map_findIdx_concat]
    exact hnames.ordered

/-- A further field of another name adds its name at the end. -/
theorem Lists.concat_new (hnames : Lists fields names)
    (hnew : ¬ names.any (Text.sameFolded · f.name) = true) :
    Lists (fields ++ [f]) (names ++ [f.name]) := by
  rw [Bool.not_eq_true, hnames.any_eq, List.any_eq_false] at hnew
  constructor
  case once =>
    intro name
    rw [List.filter_append, hnames.once, List.find?_append]
    by_cases hf : f.named name = true
    · have hnone : fields.find? (·.named name) = none := by
        rw [List.find?_eq_none]
        intro g hg
        rw [← Field.named_congr hf g]
        exact hnew g hg
      rw [hnone, List.filter_cons_of_pos (p := (Text.sameFolded · name)) hf,
        List.find?_cons_of_pos (p := (Field.named · name)) hf]
      rfl
    · rw [List.filter_cons_of_neg (p := (Text.sameFolded · name)) hf,
        List.find?_cons_of_neg (p := (Field.named · name)) hf, List.filter_nil, List.find?_nil,
        List.append_nil, Option.or_none]
  case ordered =>
    have hlast : (fields ++ [f]).findIdx (·.named f.name) = fields.length := by
      have habsent : fields.findIdx (·.named f.name) = fields.length := by
        rw [List.findIdx_eq_length]
        intro g hg
        exact Bool.eq_false_iff.2 (hnew g hg)
      rw [List.findIdx_append, habsent, if_neg (Nat.lt_irrefl _), List.findIdx_cons, f.named_self]
      exact Nat.zero_add _
    rw [List.map_append, hnames.map_findIdx_concat, List.pairwise_append]
    refine ⟨hnames.ordered, List.pairwise_singleton _ _, ?_⟩
    intro place hplace last hname
    rw [List.map_singleton, List.mem_singleton, hlast] at hname
    obtain ⟨name, hname', rfl⟩ := List.mem_map.1 hplace
    rw [hname]
    exact (hnames.findIdx_concat hname' f).1

theorem lists_distinctFrom (hnames : Lists fields names) (rest : List Field) :
    Lists (fields ++ rest) (distinctFrom names rest) := by
  induction rest generalizing fields names with
  | nil =>
    rw [List.append_nil]
    exact hnames
  | cons f rest ih =>
    have hrest : fields ++ f :: rest = (fields ++ [f]) ++ rest := by
      rw [List.append_assoc, List.singleton_append]
    rw [distinctFrom, hrest]
    by_cases hseen : names.any (fun n => Text.sameFolded n f.name) = true
    · rw [if_pos hseen]
      exact ih (hnames.concat_seen hseen)
    · rw [if_neg hseen]
      exact ih (hnames.concat_new hseen)

end Concat

theorem lists_names (h : Headers) : Lists h.fields h.names := by
  have hnone : Lists [] [] := ⟨fun _ => rfl, List.Pairwise.nil⟩
  exact lists_distinctFrom hnone h.fields

/-! ## The whole -/

/-- After any edits of any fields the values of a name are those that the edits of that name alone
make of its values, whatever the casings; the readers of the name follow from these values, and the
list of names has each name that is left once, as its first field has it, in the order of those. -/
theorem multimap_edited (start : Headers) (edits : List Edit) (name : String) :
    let h := start.edited edits
    let values := (edits.filter (·.concerns name)).foldl Edit.values (start.getAll name)
    h.getAll name = values ∧ h.get? name = values.head? ∧ h.contains name = !values.isEmpty ∧
      (h.remove name).2 = !values.isEmpty ∧ Lists h.fields h.names := by
  intro h values
  have hvalues : h.getAll name = values := getAll_edited start edits name
  refine ⟨hvalues, ?_, ?_, ?_, lists_names h⟩
  · rw [get?_eq_head?, hvalues]
  · rw [contains_eq, hvalues]
  · rw [removed_eq_contains, contains_eq, hvalues]

end Headers

end Http1Client
