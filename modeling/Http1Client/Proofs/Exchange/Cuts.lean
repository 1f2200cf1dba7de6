import Http1Client.Proofs.Exchange.Step

/-!
# The pieces in which a response arrives do not matter

Bytes of a response may be delivered in pieces of any size. `settle_append` says what
becomes of an intake that settles before more bytes arrive and then goes on with them:
the same as if all had been there at once. One step does the same with more bytes
behind (`step_append_again`), or it takes some of them along as body, and then the next
step would have come to the same end.

A line of exactly `maxLine` bytes is the exception, because it is refused while its last
byte, the LF, has not arrived. `Meets` names the lines that an intake comes to, and
`readAll_eq_whole` holds for streams without such a line. Only failures depend on it:
pieces that come to a response come to the same one as the whole stream.
-/

namespace Http1Client

namespace Draft

/-- Body bytes are accepted exactly if the body stays within the limit, and join it. -/
theorem accept_eq_ok_iff {d d' : Draft} {data : Bytes} : d.accept data = .ok d' ↔
    d.body.length + data.length ≤ d.limit ∧ d' = { d with body := d.body ++ data } := by
  unfold accept
  by_cases h : d.limit < d.body.length + data.length
  · rw [if_pos h]
    exact ⟨nofun, fun hok => absurd hok.1 (Nat.not_le.2 h)⟩
  · rw [if_neg h]
    exact ⟨fun hok => ⟨Nat.not_lt.1 h, (Except.ok.inj hok).symm⟩, fun hok => by rw [hok.2]⟩

/-- Body bytes are refused for one reason only. -/
theorem accept_eq_error {d : Draft} {data : Bytes} {failure : Failure}
    (h : d.accept data = .error failure) :
    d.limit < d.body.length + data.length ∧ failure = .tooLarge d.limit := by
  unfold accept at h
  split at h
  · next hover => exact ⟨hover, (Except.error.inj h).symm⟩
  · cases h

/-- Body bytes that come in two pieces are accepted as if they came in one. -/
theorem accept_append (d : Draft) (a b : Bytes) :
    d.accept (a ++ b) =
      match d.accept a with
      | .error failure => .error failure
      | .ok d => d.accept b := by
  by_cases ha : d.limit < d.body.length + a.length
  · have hab : d.limit < d.body.length + (a ++ b).length := by
      rw [List.length_append]
      omega
    simp only [accept, if_pos ha, if_pos hab]
  · simp only [accept, if_neg ha]
    by_cases hb : d.limit < (d.body ++ a).length + b.length
    · have hab : d.limit < d.body.length + (a ++ b).length := by
        rw [List.length_append] at hb ⊢
        omega
      rw [if_pos hb, if_pos hab]
    · have hab : ¬ d.limit < d.body.length + (a ++ b).length := by
        rw [List.length_append] at hb ⊢
        omega
      rw [if_neg hb, if_neg hab, List.append_assoc]

theorem deliver_body (d : Draft) (data : Bytes) (tail : List Event) :
    collector.deliver d (.body data :: tail) =
      match d.accept data with
      | .ok d => collector.deliver d tail
      | .error failure => (d, some failure) := by
  cases h : d.accept data with
  | ok => simp only [Collector.deliver, collector, h]
  | error => simp only [Collector.deliver, collector, h]

theorem deliver_nil (d : Draft) : collector.deliver d [] = (d, none) := rfl

end Draft

namespace Intake

variable {method : Method} {i next rest : Intake} {skipped : Option Nat} {failure : Failure}
  {more : Bytes}

@[simp] theorem append_phase (i : Intake) (more : Bytes) : (i.append more).phase = i.phase := rfl

@[simp] theorem append_left (i : Intake) (more : Bytes) :
    (i.append more).left = i.left ++ more := rfl

@[simp] theorem append_draft (i : Intake) (more : Bytes) : (i.append more).draft = i.draft := rfl

theorem append_nil (i : Intake) : i.append [] = i := by
  simp only [append, List.append_nil]

theorem append_append (i : Intake) (a b : Bytes) : (i.append a).append b = i.append (a ++ b) := by
  simp only [append, List.append_assoc]

/-! ## One step with more bytes behind -/

/-- The decision after a head does not look at the bytes behind it. -/
theorem onHead_append {left : Bytes} {draft : Draft}
    (h : onHead method left draft = .again next skipped) (more : Bytes) :
    onHead method (left ++ more) draft = .again (next.append more) skipped := by
  unfold onHead at h ⊢
  split at h
  · next hinterim =>
    rw [if_pos hinterim]
    cases h
    rfl
  · next hinterim =>
    rw [if_neg hinterim]
    split at h
    · cases h
    · split at h
      · cases h
      · cases h
        rfl

theorem onHead_append_failed {left : Bytes} {draft : Draft}
    (h : onHead method left draft = .failed failure) (more : Bytes) :
    onHead method (left ++ more) draft = .failed failure := by
  unfold onHead at h ⊢
  split at h
  · cases h
  · next hinterim =>
    rw [if_neg hinterim]
    split at h
    · cases h
      rfl
    · split at h
      · cases h
        rfl
      · cases h

/-- A step that goes on does so with more bytes behind, to the same end. Where it takes
some of them along, what it comes to is what the next step would have come to. -/
theorem step_append_again (h : step method i = .again next skipped) (more : Bytes) :
    step method (i.append more) = .again (next.append more) skipped ∨
      skipped = none ∧ next.phase.readsLine = false ∧
        step method (i.append more) = step method (next.append more) := by
  rcases step_again h with ⟨events, hpass, hdeliver, rfl⟩ | ⟨hphase, hhead⟩
  · rcases Decoder.pass_append_go hpass more with
      happ | ⟨hleft, rfl, hline, last, rest, data, tail, hnext, happ⟩
    · exact .inl (step_of_go happ hdeliver)
    · refine .inr ⟨rfl, hline, ?_⟩
      -- The draft accepts what the first pass took, so the pieces are accepted alike.
      have haccept : i.draft.accept i.left = .ok next.draft := by
        rw [Draft.deliver_body] at hdeliver
        split at hdeliver
        · next hok =>
          rw [Draft.deliver_nil, Prod.mk.injEq] at hdeliver
          rw [hok, hdeliver.1]
        · rw [Prod.mk.injEq] at hdeliver
          cases hdeliver.2
      have hevents : Draft.collector.deliver i.draft (.body (i.left ++ data) :: tail) =
          match next.draft.accept data with
          | .ok d => Draft.collector.deliver d tail
          | .error failure => (i.draft, some failure) := by
        rw [Draft.deliver_body, Draft.accept_append, haccept]
      have hmore : (next.append more).left = more := by
        rw [append_left, hleft, List.nil_append]
      simp only [step, append_phase, append_draft, hmore, hnext, append_left i, happ, hevents,
        Draft.deliver_body]
      cases next.draft.accept data <;> rfl
  · refine .inl ?_
    rw [step_headersDone (i := i.append more) hphase]
    exact onHead_append hhead more

/-- A step that fails does so with more bytes behind, unless they bring the end of a line
that is as long as a line may be. -/
theorem step_append_failed (h : step method i = .failed failure)
    (hedge : i.phase.readsLine = true → (i.left ++ more).crlfAt? ≠ some maxLine) :
    step method (i.append more) = .failed failure := by
  unfold step at h
  split at h
  · split at h
    · next hphase =>
      rw [step_headersDone (i := i.append more) hphase]
      exact onHead_append_failed h more
    · cases h
    · cases h
  · next hpass =>
    cases h
    exact step_of_stop (Decoder.pass_append_stop hpass hedge)
  · next hpass =>
    split at h
    · next hdeliver =>
      cases h
      rcases Decoder.pass_append_go hpass more with
        happ | ⟨-, rfl, -, last, rest, data, tail, -, happ⟩
      · exact step_of_refusal happ hdeliver
      · -- What is refused alone is refused with more of the body.
        rw [Draft.deliver_body] at hdeliver
        split at hdeliver
        · cases hdeliver
        · next hrefused =>
          cases hdeliver
          have hrefusal : Draft.collector.deliver i.draft (.body (i.left ++ data) :: tail) =
              (i.draft, some failure) := by
            rw [Draft.deliver_body, Draft.accept_append, hrefused]
          exact step_of_refusal happ hrefusal
    · cases h

theorem step_append_complete (h : step method i = .complete rest) (more : Bytes) :
    step method (i.append more) = .complete (rest.append more) := by
  obtain ⟨rfl, hphase⟩ := step_complete_iff.1 h
  exact step_complete hphase

/-! ## Settling with more bytes behind -/

/-- What becomes of an intake that has settled when more bytes arrive. -/
def carryOn (method : Method) (more : Bytes) : Settled → List Nat × Settled
  | .hungry rest => settle method (rest.append more)
  | .complete rest => ([], .complete (rest.append more))
  | .failed failure => ([], .failed failure)

theorem Meets.of_again {n : Nat} (h : step method i = .again next skipped)
    (hmeets : Meets method (next.append more) n) : Meets method (i.append more) n := by
  rcases step_append_again h more with happ | ⟨-, hline, happ⟩
  · exact .later happ hmeets
  · cases hmeets with
    | here hphase _ =>
      rw [append_phase, hline] at hphase
      cases hphase
    | later hstep hnext => exact .later (happ.trans hstep) hnext

/-- Settling on some of the bytes and going on with the others is settling on all. -/
theorem settle_append (method : Method) (more : Bytes) (i : Intake)
    (h : (∀ failure, (settle method i).2 ≠ .failed failure) ∨
      ¬ Meets method (i.append more) maxLine) :
    settle method (i.append more) =
      ((settle method i).1 ++ (carryOn method more (settle method i).2).1,
        (carryOn method more (settle method i).2).2) := by
  induction i using step_induction method with
  | along i ih =>
  cases hstep : step method i with
  | again next skipped =>
    have hsettle := settle_of_again hstep
    have hnext := ih next skipped hstep (by
      rcases h with h | h
      · rw [hsettle] at h
        exact .inl h
      · exact .inr fun hmeets => h (Meets.of_again hstep hmeets))
    have happ : settle method (i.append more) =
        (skipped.toList ++ (settle method (next.append more)).1,
          (settle method (next.append more)).2) := by
      rcases step_append_again hstep more with happ | ⟨rfl, -, happ⟩
      · exact settle_of_again happ
      · rw [settle_congr happ]
        rfl
    rw [happ, hnext, hsettle]
    simp only [List.append_assoc]
  | hungry rest =>
    rw [settle_of_hungry hstep]
    rfl
  | complete rest =>
    rw [settle_of_complete hstep]
    obtain ⟨rfl, -⟩ := step_complete_iff.1 hstep
    rw [settle_of_complete (step_append_complete hstep more)]
    rfl
  | failed failure =>
    rw [settle_of_failed hstep] at h ⊢
    rcases h with h | h
    · exact absurd rfl (h failure)
    · rw [settle_of_failed (step_append_failed hstep fun hphase hline => h (.here hphase hline))]
      rfl

/-! ## Reading in pieces -/

/-- What reading comes to when an intake has settled and nothing more arrives. -/
def conclude (ending : Option Stop) : Settled → Wait (Outcome Message)
  | .hungry rest => rest.onEnding ending
  | .complete rest => .done rest.draft.toMessage
  | .failed failure => .done (.error failure)

theorem readAll_nil (ending : Option Stop) (i : Intake) :
    (readAll method ending i []).2 = conclude ending (settle method i).2 := by
  rw [readAll]
  obtain ⟨codes, settled⟩ := settle method i
  cases settled <;> rfl

theorem readAll_cons (ending : Option Stop) (i : Intake) (data : Bytes) (later : List Bytes) :
    (readAll method ending i (data :: later)).2 =
      match (settle method i).2 with
      | .hungry rest => (readAll method ending (rest.append data) later).2
      | .complete rest => .done rest.draft.toMessage
      | .failed failure => .done (.error failure) := by
  rw [readAll]
  obtain ⟨codes, settled⟩ := settle method i
  cases settled <;> rfl

/-- An intake that has settled meets the same lines as before with more bytes behind. -/
theorem Meets.of_hungry {n : Nat} (h : (settle method i).2 = .hungry rest)
    (hmeets : Meets method (rest.append more) n) : Meets method (i.append more) n := by
  induction i using step_induction method with
  | along i ih =>
  cases hstep : step method i with
  | again next skipped =>
    rw [settle_of_again hstep] at h
    exact Meets.of_again hstep (ih next skipped hstep h)
  | hungry rest' =>
    rw [settle_of_hungry hstep] at h
    cases h
    exact hmeets
  | complete rest' => rw [settle_of_complete hstep] at h; cases h
  | failed failure => rw [settle_of_failed hstep] at h; cases h

/-- Reading in pieces comes to what reading all at once comes to, unless it fails at a
line that is as long as a line may be. -/
theorem readAll_eq_whole (method : Method) (ending : Option Stop) (reads : List Bytes)
    (i : Intake)
    (h : (∀ failure, (readAll method ending i reads).2 ≠ .done (.error failure)) ∨
      ¬ Meets method (i.append reads.flatten) maxLine) :
    (readAll method ending i reads).2 =
      conclude ending (settle method (i.append reads.flatten)).2 := by
  induction reads generalizing i with
  | nil => rw [List.flatten_nil, append_nil, readAll_nil]
  | cons data later ih =>
    have happ := settle_append method (data ++ later.flatten) i
    rw [readAll_cons] at h ⊢
    rw [List.flatten_cons] at h ⊢
    cases hsettle : (settle method i).2 with
    | hungry rest =>
      rw [hsettle] at h happ
      rw [happ (.inl nofun)]
      simp only [carryOn] at h ⊢
      rw [← append_append] at h ⊢
      refine ih (rest.append data) (h.imp_right fun hmeets hmeets' => ?_)
      rw [append_append] at hmeets hmeets'
      exact hmeets (Meets.of_hungry hsettle hmeets')
    | complete rest =>
      rw [hsettle] at happ
      rw [happ (.inl nofun)]
      rfl
    | failed failure =>
      rw [hsettle] at h happ
      rcases h with h | h
      · exact absurd rfl (h failure)
      · rw [happ (.inr h)]
        rfl

/-- Two ways of cutting a stream into reads, with the same end, come to the same outcome:
the same response, or the same failure. -/
theorem readAll_eq_of_flatten_eq (method : Method) (limit : Nat) (ending : Option Stop)
    {stream : Bytes} (hedge : ¬ Meets method ((start limit).append stream) maxLine)
    {reads reads' : List Bytes} (hreads : reads.flatten = stream)
    (hreads' : reads'.flatten = stream) :
    (readAll method ending (start limit) reads).2 =
      (readAll method ending (start limit) reads').2 := by
  rw [readAll_eq_whole method ending reads (start limit) (.inr (hreads ▸ hedge)),
    readAll_eq_whole method ending reads' (start limit) (.inr (hreads' ▸ hedge)), hreads, hreads']

/-- A stream too short for a line of `maxLine` bytes meets none. -/
theorem not_meets_of_length (method : Method) (limit : Nat) {stream : Bytes}
    (h : stream.length < maxLine + 2) : ¬ Meets method ((start limit).append stream) maxLine := by
  intro hmeets
  have := hmeets.length_le
  simp only [append_left, start, List.nil_append] at this
  omega

/-- An interim response, then chunks over the limit: in one read, and a byte at a time. -/
theorem readAll_eq_of_flatten_eq_bytewise :
    let stream := Utf8.encode ("HTTP/1.1 100 Continue\r\n\r\nHTTP/1.1 200 OK\r\n" ++
      "Transfer-Encoding: chunked\r\nX: é\r\n\r\n3;a=b\r\nabc\r\n2\r\nde\r\n0\r\nT: 1\r\n\r\n")
    ¬ Meets .get ((start 4).append stream) maxLine ∧
      (readAll .get none (start 4) [stream]).2 =
        (readAll .get none (start 4) (stream.map fun b => [b])).2 := by
  intro stream
  have hedge : ¬ Meets .get ((start 4).append stream) maxLine :=
    not_meets_of_length .get 4 (by decide +kernel)
  have hbytes : (stream.map fun b => [b]).flatten = stream := by
    rw [← List.flatMap_def, List.flatMap_singleton']
  exact ⟨hedge, readAll_eq_of_flatten_eq .get 4 none hedge (List.append_nil stream) hbytes⟩

end Intake

end Http1Client
