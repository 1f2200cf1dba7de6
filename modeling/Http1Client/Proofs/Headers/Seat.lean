import Http1Client.Proofs.Headers
import Mathlib.Data.List.Basic

/-!
# The seat of a field

The *seat* of a name is the number of fields before the first one of the name; without one it is
behind all fields. Setting a field puts it into the seat of its name, and no field of another name
moves (`fields_set`). So the seat stays where it was, and setting a name twice is the same as
setting it the second time only (`place_place`).

The same is done in place by one index that goes along the list: the first field of the name is
overwritten, and from there on each field that answers to the name of the field that was written
is taken away, which moves the next one to the index where it stood (`sweep`). `overwrite_eq` says
that this comes to `set`.
-/

namespace Http1Client

theorem Field.named_congr {name other : String} (hsame : Text.sameFolded name other = true)
    (f : Field) : f.named name = f.named other := by
  have hfolded : Text.lower name.toList = Text.lower other.toList := Text.sameFolded_iff.1 hsame
  show (_ == Text.lower name.toList) = (_ == Text.lower other.toList)
  rw [hfolded]

namespace Headers

variable {h : Headers} {name value : String} {f : Field}

/-- How many fields stand before the first one of a name. -/
def seat (h : Headers) (name : String) : Nat := h.fields.findIdx (·.named name)

theorem not_named_of_mem_take_seat (hf : f ∈ h.fields.take (h.seat name)) :
    f.named name = false := by
  obtain ⟨i, hi, rfl⟩ := List.mem_iff_getElem.1 hf
  rw [List.length_take] at hi
  rw [List.getElem_take]
  exact List.not_of_lt_findIdx (Nat.lt_of_lt_of_le hi (Nat.min_le_left _ _))

theorem seat_le : h.seat name ≤ h.fields.length := List.findIdx_le_length

/-! ## What setting a field does to the list -/

theorem place_eq (f : Field) (fields : List Field) :
    place f fields = fields.take (fields.findIdx (·.named f.name)) ++
      f :: (fields.drop (fields.findIdx (·.named f.name))).filter (!·.named f.name) := by
  induction fields with
  | nil => rfl
  | cons a fields ih =>
    rw [place, List.findIdx_cons]
    by_cases ha : a.named f.name = true
    · rw [if_pos ha, ha, cond_true, List.take_zero, List.drop_zero, List.filter_cons_of_neg,
        List.nil_append]
      simp [ha]
    · rw [if_neg ha, ih, Bool.eq_false_iff.2 ha, cond_false, List.take_succ_cons,
        List.drop_succ_cons, List.cons_append]

/-- The fields before the seat, the field that was set, and those of other names behind it. -/
theorem fields_set : (h.set name value).fields = h.fields.take (h.seat name) ++
    ⟨name, value⟩ :: (h.fields.drop (h.seat name)).filter (!·.named name) :=
  place_eq ⟨name, value⟩ h.fields

theorem filter_set_other :
    (h.set name value).fields.filter (!·.named name) = h.fields.filter (!·.named name) := by
  refine filter_set ?_
  intro f hf
  rw [hf, Bool.not_true]

theorem seat_set : (h.set name value).seat name = h.seat name := by
  have hself : Field.named ⟨name, value⟩ name = true := Field.named_self ⟨name, value⟩
  have hbefore : (h.fields.take (h.seat name)).findIdx (·.named name) =
      (h.fields.take (h.seat name)).length := by
    rw [List.findIdx_eq_length]
    intro f hf
    exact not_named_of_mem_take_seat hf
  have hlength : (h.fields.take (h.seat name)).length = h.seat name := by
    rw [List.length_take]
    exact Nat.min_eq_left seat_le
  show (h.set name value).fields.findIdx (·.named name) = h.seat name
  rw [fields_set, List.findIdx_append, hbefore, if_neg (Nat.lt_irrefl _), List.findIdx_cons, hself,
    cond_true, Nat.zero_add, hlength]

theorem place_place {f g : Field} (hsame : Text.sameFolded f.name g.name = true)
    (fields : List Field) : place g (place f fields) = place g fields := by
  have hnamed (a : Field) : a.named f.name = a.named g.name := Field.named_congr hsame a
  have hf : f.named g.name = true := by
    rw [← hnamed]
    exact f.named_self
  induction fields with
  | nil =>
    show place g [f] = [g]
    rw [place, if_pos hf, List.filter_nil]
  | cons a fields ih =>
    by_cases ha : a.named f.name = true
    · have hother : ∀ b ∈ fields, (!b.named g.name && !b.named f.name) = !b.named g.name := by
        intro b _
        rw [hnamed b, Bool.and_self]
      rw [place, if_pos ha, place, if_pos hf, place, if_pos (hnamed a ▸ ha), List.filter_filter]
      exact congrArg (List.cons g) (List.filter_congr hother)
    · rw [place, if_neg ha, place, if_neg (hnamed a ▸ ha), ih, place, if_neg (hnamed a ▸ ha)]

/-! ## In place -/

/-- From an index on, takes away each field that answers to the name of the field at `first`. Where
one has gone the index stays, since the next field stands there now. -/
def sweep (first : Nat) (fields : List Field) (i : Nat) : List Field :=
  if hi : i < fields.length then
    if fields[first]?.any fun f => fields[i].named f.name then
      sweep first (fields.eraseIdx i) i
    else sweep first fields (i + 1)
  else fields
  termination_by fields.length - i
  decreasing_by
    · rw [List.length_eraseIdx_of_lt hi]
      omega
    · omega

/-- One value for the name, by positions: over the first field of the name, and then the later ones
are taken away. -/
def overwrite (h : Headers) (name value : String) : Headers :=
  match h.fields.findIdx? (·.named name) with
  | some first => ⟨sweep first (h.fields.set first ⟨name, value⟩) (first + 1)⟩
  | none => h.add name value

/-- The index stands between the fields that were looked at, and stay, and those still to come. -/
theorem sweep_eq (f : Field) (front kept rest : List Field) :
    sweep front.length (front ++ f :: (kept ++ rest)) (front.length + 1 + kept.length) =
      front ++ f :: (kept ++ rest.filter (!·.named f.name)) := by
  -- A field that stays joins those that were kept, so the index is again right behind them.
  induction rest generalizing kept with
  | nil =>
    rw [sweep, dif_neg]
    · rfl
    · simp only [List.length_append, List.length_cons, List.length_nil]
      omega
  | cons a rest ih =>
    have hi : front.length + 1 + kept.length < (front ++ f :: (kept ++ a :: rest)).length := by
      simp only [List.length_append, List.length_cons]
      omega
    have hfirst : (front ++ f :: (kept ++ a :: rest))[front.length]? = some f := by simp
    have hlast : front ++ f :: (kept ++ a :: rest) = (front ++ f :: kept) ++ a :: rest := by simp
    have hindex : front.length + 1 + kept.length = (front ++ f :: kept).length := by
      simp only [List.length_append, List.length_cons]
      omega
    have hhere : (front ++ f :: (kept ++ a :: rest))[front.length + 1 + kept.length] = a := by
      simp only [hlast, hindex, List.getElem_append_right (Nat.le_refl _), Nat.sub_self,
        List.getElem_cons_zero]
    rw [sweep, dif_pos hi, hfirst, hhere, Option.any_some]
    by_cases ha : a.named f.name = true
    · have herase : (front ++ f :: (kept ++ a :: rest)).eraseIdx (front.length + 1 + kept.length) =
          front ++ f :: (kept ++ rest) := by
        rw [hlast, hindex, List.eraseIdx_append_of_length_le (Nat.le_refl _), Nat.sub_self]
        simp
      rw [if_pos ha, herase, ih, List.filter_cons_of_neg]
      simp [ha]
    · have hkeep : front ++ f :: (kept ++ a :: rest) = front ++ f :: ((kept ++ [a]) ++ rest) := by
        simp
      have hnext : front.length + 1 + kept.length + 1 =
          front.length + 1 + (kept ++ [a]).length := by
        rw [List.length_append, List.length_singleton, Nat.add_assoc]
      rw [if_neg ha, hkeep, hnext, ih, List.filter_cons_of_pos]
      · simp
      · simp [ha]

theorem overwrite_eq : h.overwrite name value = h.set name value := by
  unfold overwrite
  split
  · next first hfirst =>
    obtain ⟨hlt, hseat⟩ := List.findIdx?_eq_some_iff_findIdx_eq.1 hfirst
    have hnamed : h.fields[first].named name = true := by
      have hinside : h.fields.findIdx (·.named name) < h.fields.length := by
        rw [hseat]
        exact hlt
      have hfound := @List.findIdx_getElem Field (·.named name) h.fields hinside
      simpa only [hseat] using hfound
    have hlength : (h.fields.take first).length = first := by
      rw [List.length_take]
      exact Nat.min_eq_left (Nat.le_of_lt hlt)
    have hswept := sweep_eq ⟨name, value⟩ (h.fields.take first) [] (h.fields.drop (first + 1))
    have hset : (h.set name value).fields = _ := fields_set
    rw [seat, hseat, List.drop_eq_getElem_cons hlt, List.filter_cons_of_neg] at hset
    · rw [hlength] at hswept
      rw [List.set_eq_take_append_cons_drop, if_pos hlt]
      exact congrArg Headers.mk (hswept.trans hset.symm)
    · simp [hnamed]
  · next hnone =>
    have habsent : h.contains name = false := by
      rw [contains, List.any_eq_false]
      intro f hf
      exact Bool.eq_false_iff.1 (List.findIdx?_eq_none_iff.1 hnone f hf)
    exact congrArg Headers.mk (fields_set_of_absent habsent).symm

/-! ## The whole -/

/-- Setting a field leaves the fields of other names in their order, and the new field is the only
one of its name, in the seat of the first one that there was, or last; of two settings of one name
the second counts; and the edit in place does all this. -/
theorem set_seated (h : Headers) (name value : String) :
    (h.set name value).fields.filter (!·.named name) = h.fields.filter (!·.named name) ∧
      (h.set name value).fieldsOf name = [⟨name, value⟩] ∧
      (h.set name value).seat name = h.seat name ∧
      (h.contains name = false → (h.set name value).fields = h.fields ++ [⟨name, value⟩]) ∧
      (∀ other later : String, Text.sameFolded name other = true →
        (h.set name value).set other later = h.set other later) ∧
      h.overwrite name value = h.set name value := by
  refine ⟨filter_set_other, fieldsOf_set, seat_set, fields_set_of_absent, ?_, overwrite_eq⟩
  intro other later hsame
  exact congrArg Headers.mk (place_place hsame h.fields)

/-- Fields of one name side by side and at the end, in several casings, and a name that is new. -/
theorem set_seated_casings :
    let h : Headers := ⟨[⟨"A", "1"⟩, ⟨"x", "2"⟩, ⟨"X", "3"⟩, ⟨"x", "4"⟩, ⟨"b", "5"⟩, ⟨"X", "6"⟩]⟩
    (h.set "X" "7").fields = [⟨"A", "1"⟩, ⟨"X", "7"⟩, ⟨"b", "5"⟩] ∧
      (h.set "X" "7").seat "X" = h.seat "X" ∧ (h.set "X" "7").set "x" "8" = h.set "x" "8" ∧
      (h.set "c" "9").fields = h.fields ++ [⟨"c", "9"⟩] := by
  intro h
  obtain ⟨-, -, hseat, -, htwice, -⟩ := set_seated h "X" "7"
  obtain ⟨-, -, -, hlast, -⟩ := set_seated h "c" "9"
  exact ⟨by decide, hseat, htwice "x" "8" (by decide), hlast (by decide)⟩

end Headers

end Http1Client
