import Http1Client.Proofs.Exchange.Written
import Http1Client.Proofs.Lifetime.Handover

/-!
# Where the type of a body comes from

The fields of a message are those of the head and, behind them, those of the trailers, so that the
first Content-Type is the head's if it has one, and else the trailers' (`Headers.get?_append`). By
`written_of_accepted` this holds of the bytes of every response that is accepted. A head that says
nothing of the type leaves it to the trailers (`mediaType_of_trailer`).
-/

namespace Http1Client

/-- The first value of a name is among the fields in front if the name occurs there. -/
theorem Headers.get?_append (front back : List Field) (name : String) :
    Headers.get? ⟨front ++ back⟩ name =
      (Headers.get? ⟨front⟩ name).or (Headers.get? ⟨back⟩ name) := by
  show ((front ++ back).find? (·.named name)).map (·.value) = _
  rw [List.find?_append, Option.map_or]
  rfl

/-- A response that is handed over has the type that its fields name first. -/
theorem Store.mediaType_of_deliver {s : Store} {m : Message} {e : ScopeId} {received : Received}
    (h : (s.deliver m e).2 = .ok received) :
    received.mediaType = MediaType.ofField (m.headers.get? "Content-Type") := by
  have hassemble : ((s.hold m.content).1.assemble m.status m.headers (s.hold m.content).2 e).2 =
      .ok received := h
  rw [assemble_eq] at hassemble
  dsimp only at hassemble
  split at hassemble
  · rw [← Except.ok.inj hassemble]
  · cases hassemble

namespace Intake

/-- The type of a body is named by the first Content-Type of the head of the final response; if the
head has none, by the first one of the trailers; and if there is none either, it is unknown. -/
theorem mediaType_of_accepted {method : Method} {ending : Option Stop} {limit : Nat}
    {reads : List Bytes} {m : Message} {s : Store} {e : ScopeId} {received : Received}
    (hread : (readAll method ending (start limit) reads).2 = .done (.ok m))
    (hdeliver : (s.deliver m e).2 = .ok received) :
    (∃ before final tail, Opens reads.flatten before final tail) ∧
      ∀ before final tail, Opens reads.flatten before final tail →
        ∃ p, Carries method final tail p ∧ received.mediaType =
          match final.headers.get? "Content-Type", Headers.get? ⟨p.trailers⟩ "Content-Type" with
          | some value, _ => .ofField (some value)
          | none, some value => .ofField (some value)
          | none, none => .unknown := by
  obtain ⟨hopens, hwritten⟩ := written_of_accepted hread
  refine ⟨hopens, fun before final tail hstream => ?_⟩
  obtain ⟨p, hcarries, rfl⟩ := hwritten before final tail hstream
  refine ⟨p, hcarries, ?_⟩
  have htype := Store.mediaType_of_deliver hdeliver
  rw [Rendition.message, Headers.get?_append] at htype
  rw [htype]
  show MediaType.ofField ((final.headers.get? "Content-Type").or _) = _
  cases final.headers.get? "Content-Type" with
  | some value => rfl
  | none => cases Headers.get? ⟨p.trailers⟩ "Content-Type" <;> rfl

/-- A head that names a type in front of chunks, and a trailer that names another. -/
theorem mediaType_of_accepted_both :
    let r : Rendition := ⟨⟨"1", 200, some "OK",
        [⟨"content-type", " text/plain"⟩, ⟨"Transfer-Encoding", " chunked"⟩]⟩,
      .chunked [⟨⟨"2", none⟩, [104, 105]⟩] ⟨"0", none⟩ [⟨"CONTENT-TYPE", " a/b"⟩]⟩
    let received : Received :=
      ⟨r.message.status, r.message.headers, .ofField (r.message.headers.get? "Content-Type"), ⟨0⟩⟩
    (readAll .get none (start 2) (r.wire.map fun b => [b])).2 = .done (.ok r.message) ∧
      (Store.deliver { scopes := [.live []] } r.message ⟨0⟩).2 = .ok received ∧
      ∃ p, Carries .get r.head r.payload.wire p ∧
        received.mediaType = .ofField (some "text/plain") := by
  intro r received
  have hvalid : r.Valid := by decide
  have hsizes : r.payload.ShortSizes := by decide
  have hbytes : (r.wire.map fun b => [b]).flatten = r.wire := by
    rw [← List.flatMap_def, List.flatMap_singleton']
  have hread : (readAll .get none (start 2) (r.wire.map fun b => [b])).2 = .done (.ok r.message) :=
    readAll_rendition hvalid hsizes rfl 2 nofun hbytes
  have hdeliver : (Store.deliver { scopes := [.live []] } r.message ⟨0⟩).2 = .ok received := rfl
  have hopens : Opens (r.wire.map fun b => [b]).flatten [] r.head r.payload.wire := by
    rw [hbytes]
    exact .nil hvalid.head.readable rfl r.payload.wire
  obtain ⟨p, hcarries, htype⟩ := (mediaType_of_accepted hread hdeliver).2 [] _ _ hopens
  refine ⟨hread, hdeliver, p, hcarries, htype.trans ?_⟩
  have hfirst : r.head.headers.get? "Content-Type" = some "text/plain" := by decide
  rw [hfirst]

/-- The head says nothing of the type, and the trailers name one: the body has the type of the
trailer, although it is unknown by the head. -/
theorem mediaType_of_trailer :
    let r : Rendition := ⟨⟨"1", 200, some "OK", [⟨"Transfer-Encoding", " chunked"⟩]⟩,
      .chunked [] ⟨"0", none⟩ [⟨"Content-Type", " a/b"⟩]⟩
    ∃ received, (readAll .get none (start 0) [r.wire]).2 = .done (.ok r.message) ∧
      (Store.deliver { scopes := [.live []] } r.message ⟨0⟩).2 = .ok received ∧
      Opens [r.wire].flatten [] r.head r.payload.wire ∧
      MediaType.ofField (r.head.headers.get? "Content-Type") = .unknown ∧
      received.mediaType = ⟨"a", "b", []⟩ := by
  intro r
  have hvalid : r.Valid := by decide
  have hsizes : r.payload.ShortSizes := by decide
  have hbytes : [r.wire].flatten = r.wire := List.flatten_singleton
  have hread : (readAll .get none (start 0) [r.wire]).2 = .done (.ok r.message) :=
    readAll_rendition hvalid hsizes rfl 0 nofun hbytes
  refine ⟨⟨r.message.status, r.message.headers,
    .ofField (r.message.headers.get? "Content-Type"), ⟨0⟩⟩, hread, rfl, ?_, ?_, ?_⟩
  · rw [hbytes]
    exact .nil hvalid.head.readable rfl r.payload.wire
  · decide
  · decide +kernel

end Intake

end Http1Client
