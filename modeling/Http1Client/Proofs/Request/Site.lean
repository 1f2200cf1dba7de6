import Http1Client.Network.Peer
import Http1Client.Proofs.Request.Completed

/-!
# The Host field says where a request goes

A request says in its Host field for which host and port it is, and it connects to a target that
was made from the same URL in another way: the field keeps the brackets around an IPv6 address and
leaves out a port that the scheme implies, the target has no brackets and always a port, and the
two do not write all addresses alike. `Site.read?` reads the field back, with the port behind the
last colon outside brackets. It finds the host of the URL and the port of the target
(`site_of_prepare`).

A host holds no colon outside brackets (`Site.sealed_render`), so there is nothing that could be
taken for a port. Without its brackets it is the host of the target, though maybe in other letters
(`Site.sameHost_dialled`): whoever dials the one dials the other (`Site.dial_of_sameHost`).
-/

namespace Http1Client

/-- Where a Host field points: a host as it stands in a URL, and a port. -/
structure Site where
  host : List Char
  port : Nat
  deriving DecidableEq, Repr

namespace Site

/-- Two texts are one host to whoever connects: they are the same, or the same address. -/
def SameHost (s t : String) : Prop :=
  s = t ∨ ∃ a, Address.parse? s = some a ∧ Address.parse? t = some a

/-- Who dials one of them dials the other. -/
theorem dial_of_sameHost {s t : String} (h : SameHost s t) (p : Peer) (port : Nat) :
    p.dial s port = p.dial t port := by
  rcases h with rfl | ⟨a, hs, ht⟩
  · rfl
  · have haddresses : p.addresses s = p.addresses t := by
      rw [Peer.addresses, Peer.addresses, hs, ht]
    rw [Peer.dial, Peer.dial, haddresses]

/-! ## Reading a Host field -/

/-- Whether the text goes on inside brackets behind a character. -/
def within (inside : Bool) (c : Char) : Bool :=
  if c = '[' then true else if c = ']' then false else inside

/-- The text before the last colon outside brackets, and the text after it if there is one. -/
def cutPort (inside : Bool) : List Char → List Char × Option (List Char)
  | [] => ([], none)
  | c :: rest =>
    match cutPort (within inside c) rest with
    | (front, some port) => (c :: front, some port)
    | (front, none) => if c = ':' ∧ !inside then ([], some front) else (c :: front, none)

/-- Reads a Host field. Without a port it means the one that the scheme implies. -/
def read? (secure : Bool) (value : String) : Option Site :=
  match cutPort false value.toList with
  | (host, none) => some ⟨host, defaultPort secure⟩
  | (host, some port) => (Text.numeral? 10 UInt16.size port).map fun n => ⟨host, n⟩

/-- The host without the brackets around it. -/
def dialled (s : Site) : String :=
  match s.host with
  | '[' :: rest => String.ofList rest.dropLast
  | host => String.ofList host

/-! ## Sealed texts -/

/-- Brackets are closed at the end of the text, and no colon stands outside them. -/
def sealed (inside : Bool) : List Char → Bool
  | [] => !inside
  | c :: rest => (inside || c != ':') && sealed (within inside c) rest

/-- The port is not looked for in a sealed text. -/
theorem cutPort_sealed {inside : Bool} {text : List Char} (h : sealed inside text = true)
    (tail : List Char) :
    cutPort inside (text ++ tail) = (text ++ (cutPort false tail).1, (cutPort false tail).2) := by
  induction text generalizing inside with
  | nil =>
    cases inside with
    | true => cases h
    | false => rfl
  | cons c text ih =>
    simp only [sealed, Bool.and_eq_true] at h
    obtain ⟨hc, htext⟩ := h
    have hcolon : ¬ (c = ':' ∧ (!inside) = true) := by
      rintro ⟨rfl, hout⟩
      cases inside with
      | true => cases hout
      | false => cases hc
    rw [List.cons_append, cutPort, ih htext]
    -- Behind the text there is a colon to cut at, or there is none at all.
    cases hport : (cutPort false tail).2 with
    | some port => rfl
    | none =>
      dsimp only
      rw [if_neg hcolon]
      rfl

/-- A character that means nothing to whoever looks for the port. -/
def Plain (c : Char) : Prop := c ≠ ':' ∧ c ≠ '[' ∧ c ≠ ']'

instance (c : Char) : Decidable (Plain c) := inferInstanceAs (Decidable (_ ∧ _ ∧ _))

theorem sealed_of_plain {text : List Char} (h : ∀ c ∈ text, Plain c) :
    sealed false text = true := by
  induction text with
  | nil => rfl
  | cons c text ih =>
    obtain ⟨hcolon, hopen, hclose⟩ := h c List.mem_cons_self
    rw [sealed, within, if_neg hopen, if_neg hclose,
      ih fun d hd => h d (List.mem_cons_of_mem _ hd)]
    simpa using hcolon

theorem sealed_brackets {text : List Char} (h : ∀ c ∈ text, c ≠ '[' ∧ c ≠ ']') :
    sealed false ('[' :: text ++ [']']) = true := by
  have hinside : sealed true (text ++ [']']) = true := by
    induction text with
    | nil => rfl
    | cons c text ih =>
      obtain ⟨hopen, hclose⟩ := h c List.mem_cons_self
      rw [List.cons_append, sealed, within, if_neg hopen, if_neg hclose,
        ih fun d hd => h d (List.mem_cons_of_mem _ hd)]
      rfl
  exact hinside

theorem plain_of_isDigit {c : Char} (h : Text.isDigit 16 c = true) : Plain c := by
  refine ⟨?_, ?_, ?_⟩
  · rintro rfl
    exact absurd h (by decide)
  · rintro rfl
    exact absurd h (by decide)
  · rintro rfl
    exact absurd h (by decide)

theorem plain_of_decimal {n : Nat} {c : Char} (h : c ∈ Text.decimal n) : Plain c :=
  plain_of_isDigit (Text.isDigit_mono (by omega) (Text.isDigit_decimal h))

theorem plain_of_nameChar {c : Char} (h : Url.NameChar c) : Plain c := by
  refine ⟨?_, ?_, ?_⟩
  · rintro rfl
    exact absurd h (by decide)
  · rintro rfl
    exact absurd h (by decide)
  · rintro rfl
    exact absurd h (by decide)

theorem plain_of_ipv4 {a : Ipv4} {c : Char} (h : c ∈ a.render) : Plain c := by
  rcases Ipv4.mem_render h with hdigit | rfl
  · exact plain_of_isDigit (Text.isDigit_mono (by omega) hdigit)
  · decide

/-! ## Hosts -/

/-- The host of a URL is sealed. -/
theorem sealed_render {host : Url.Host} (h : host.Known) : sealed false host.render = true := by
  cases h with
  | name hname => exact sealed_of_plain fun c hc => plain_of_nameChar (hname c hc)
  | ipv4 a => exact sealed_of_plain fun c hc => plain_of_ipv4 hc
  | ipv6 a =>
    refine sealed_brackets fun c hc => ?_
    rcases Ipv6.mem_render hc with hdigit | rfl
    · exact (plain_of_isDigit hdigit).2
    · decide

/-- Text that holds no bracket is dialled as it is. -/
theorem dialled_of_plain {host : List Char} (h : ∀ c ∈ host, Plain c) (port : Nat) :
    dialled ⟨host, port⟩ = String.ofList host := by
  unfold dialled
  split
  · next rest hrest =>
    have hhost : host = '[' :: rest := hrest
    exact absurd rfl (h '[' (hhost ▸ List.mem_cons_self)).2.1
  · rfl

theorem dialled_of_brackets (text : List Char) (port : Nat) :
    dialled ⟨'[' :: text ++ [']'], port⟩ = String.ofList text := by
  show String.ofList (text ++ [']']).dropLast = String.ofList text
  rw [List.dropLast_concat]

/-- A host as it stands in a URL is the one that a socket writes. -/
theorem sameHost_dialled {host : Url.Host} (h : host.Known) (port : Nat) :
    SameHost (dialled ⟨host.render, port⟩) (String.ofList host.dialled) := by
  cases h with
  | name hname => exact .inl (dialled_of_plain (fun c hc => plain_of_nameChar (hname c hc)) port)
  | ipv4 a => exact .inl (dialled_of_plain (fun c hc => plain_of_ipv4 hc) port)
  | ipv6 a =>
    -- The texts differ if the address stands for an IPv4 address, but not in what they say.
    obtain ⟨hrender, hmapped⟩ := Address.parse?_ipv6 a
    refine .inr ⟨.ipv6 a, ?_, hmapped⟩
    show Address.parse? (dialled ⟨'[' :: a.render ++ [']'], port⟩) = some (.ipv6 a)
    rw [dialled_of_brackets, hrender]

/-! ## The field of a request -/

theorem cutPort_colon {digits : List Char} (h : ∀ c ∈ digits, Plain c) :
    cutPort false (':' :: digits) = ([], some digits) := by
  have hdigits := cutPort_sealed (sealed_of_plain h) []
  rw [List.append_nil] at hdigits
  have hcut : cutPort (within false ':') digits = (digits ++ [], none) := hdigits
  rw [cutPort, hcut, List.append_nil]
  rfl

/-- The port is what was written behind the host. -/
theorem cutPort_hostField {host : Url.Host} (h : host.Known) (port : Option Nat) :
    cutPort false (Request.hostField host port).toList = (host.render, port.map Text.decimal) := by
  unfold Request.hostField
  rw [String.toList_ofList, cutPort_sealed (sealed_render h)]
  cases port with
  | none =>
    show (host.render ++ [], none) = _
    rw [List.append_nil]
    rfl
  | some p =>
    dsimp only
    rw [cutPort_colon fun c hc => plain_of_decimal hc, List.append_nil]
    rfl

theorem read?_hostField {host : Url.Host} {port : Option Nat} (h : host.Known)
    (hport : ∀ p, port = some p → p < UInt16.size) (secure : Bool) :
    read? secure (Request.hostField host port) =
      some ⟨host.render, port.getD (defaultPort secure)⟩ := by
  rw [read?, cutPort_hostField h]
  cases port with
  | none => rfl
  | some p =>
    dsimp only [Option.map_some]
    rw [Text.numeral?_decimal (hport p rfl)]
    rfl

end Site

/-! ## Ports of a URL -/

/-- A port that is kept is in range, and not the one that the scheme implies. -/
theorem Url.port_of_readPort {scheme text : List Char} {p : Nat}
    (h : Url.readPort scheme text = .ok (some p)) :
    p < UInt16.size ∧ Url.impliedPort scheme ≠ some p := by
  unfold readPort at h
  split at h
  · split at h
    · cases h
    dsimp only at h
    split at h
    · cases h
    next hrange =>
    split at h
    · cases h
    next hkept =>
    cases h
    rw [Bool.or_eq_true, not_or] at hkept
    refine ⟨?_, fun himplied => hkept.2 (beq_iff_eq.2 himplied)⟩
    rw [UInt16.size]
    omega
  · cases h

/-- A request is secure exactly if the scheme of its URL is `https`, and the scheme implies the
default port. -/
theorem Request.scheme_of_security? {url : Url} {secure : Bool}
    (h : Request.security? url = some secure) :
    (url.scheme = "http".toList ∨ url.scheme = "https".toList) ∧
      (secure = true ↔ url.scheme = "https".toList) ∧
      Url.impliedPort url.scheme = some (defaultPort secure) := by
  unfold security? at h
  split at h
  · next hscheme =>
    cases h
    rw [eq_of_beq hscheme]
    exact ⟨.inr rfl, ⟨fun _ => rfl, fun _ => rfl⟩, rfl⟩
  split at h
  · next hscheme =>
    cases h
    rw [eq_of_beq hscheme]
    have hne : "http".toList ≠ "https".toList := by decide
    exact ⟨.inl rfl, ⟨nofun, fun heq => absurd heq hne⟩, rfl⟩
  · cases h

/-! ## The whole -/

/-- Without a Host field of the caller's a prepared request has one. It reads back as the host of
the URL that the caller gave, which is the one that the target dials, and as the port of the
target. The scheme is `http` or `https`, the target is secure exactly for the latter, and the field
has no port exactly if it is the default one. -/
theorem site_of_prepare {spec : RequestSpec} {config : Config} {r : Request}
    (h : prepare spec config = .ok r) (habsent : spec.headers.contains "Host" = false) :
    ∃ text host value, spec.url = some text ∧ Url.parse text = .ok r.url ∧
      r.url.host = some host ∧ r.headers.getAll "Host" = [value] ∧
      Site.read? r.target.secure value = some ⟨host.render, r.target.port⟩ ∧
      Site.SameHost (Site.dialled ⟨host.render, r.target.port⟩) r.target.host ∧
      (r.url.scheme = "http".toList ∨ r.url.scheme = "https".toList) ∧
      (r.target.secure = true ↔ r.url.scheme = "https".toList) ∧
      ((Site.cutPort false value.toList).2 = none ↔
        r.target.port = defaultPort r.target.secure) := by
  obtain ⟨host, hprepared⟩ := prepare_ok h
  obtain ⟨text, htext, hurl⟩ := hprepared.given
  have hspecial := Url.parse_special hurl hprepared.known
  obtain ⟨hscheme, hsecure, himplied⟩ := Request.scheme_of_security? hprepared.security
  have hknown : host.Known := by
    obtain ⟨place, host', hparse, hhost⟩ := hspecial.host
    rw [hprepared.urlHost] at hhost
    cases hhost
    exact Url.Host.known_of_parse hparse
  have hport : ∀ p, r.url.port = some p →
      p < UInt16.size ∧ Url.impliedPort r.url.scheme ≠ some p := by
    intro p hp
    obtain ⟨part, hread⟩ := hspecial.port
    rw [hp] at hread
    exact Url.port_of_readPort hread
  have hfield : r.headers.getAll "Host" = [Request.hostField host r.url.port] := by
    have hfields : r.headers.fieldsOf "Host" =
        [⟨"Host", Request.hostField host r.url.port⟩] := by
      rw [hprepared.headers, Request.fieldsOf_host, habsent]
      rfl
    exact congrArg (·.map Field.value) hfields
  refine ⟨text, host, Request.hostField host r.url.port, htext, hurl, hprepared.urlHost, hfield,
    ?_, ?_, hscheme, hsecure, ?_⟩
  · rw [hprepared.port]
    exact Site.read?_hostField hknown (fun p hp => (hport p hp).1) r.target.secure
  · rw [hprepared.dialled]
    exact Site.sameHost_dialled hknown r.target.port
  · rw [Site.cutPort_hostField hknown, hprepared.port]
    cases hp : r.url.port with
    | none => exact ⟨fun _ => rfl, fun _ => rfl⟩
    | some p =>
      have hne := (hport p hp).2
      rw [himplied] at hne
      exact ⟨nofun, fun heq => absurd (congrArg some heq.symm) hne⟩

/-- An address that stands for an IPv4 address, which the field and the target write in different
ways, and the default port of the other scheme. -/
theorem site_of_prepare_mapped :
    let spec : RequestSpec := ⟨.get, some "https://[::ffff:1.2.3.4]:80/", ⟨[⟨"X-Host", "h"⟩]⟩, none⟩
    ∃ r, prepare spec {} = .ok r ∧ spec.headers.contains "Host" = false ∧
      r.headers.getAll "Host" = ["[::ffff:102:304]:80"] ∧
      r.target = ⟨"::ffff:1.2.3.4", 80, true⟩ ∧
      Site.read? true "[::ffff:102:304]:80" = some ⟨"[::ffff:102:304]".toList, 80⟩ ∧
      Site.SameHost "::ffff:102:304" "::ffff:1.2.3.4" := by
  intro spec
  let a : Ipv6 := ⟨[0, 0, 0, 0, 0, 0xFFFF, 0x0102, 0x0304], rfl⟩
  let url : Url := ⟨"https".toList, [], [], some (.ipv6 a), some 80, .segments [[]], none, none⟩
  let r : Request := ⟨.get, url, "/", ⟨[⟨"X-Host", "h"⟩, ⟨"Host", "[::ffff:102:304]:80"⟩,
    ⟨"Connection", "close"⟩]⟩, [], ⟨"::ffff:1.2.3.4", 80, true⟩⟩
  have hprepare : prepare spec {} = .ok r := by decide
  have habsent : spec.headers.contains "Host" = false := by decide
  obtain ⟨_, host, value, -, -, hhost, hvalue, hread, hsame, -⟩ :=
    site_of_prepare hprepare habsent
  cases hhost
  have hfield : r.headers.getAll "Host" = ["[::ffff:102:304]:80"] := by decide
  rw [hfield] at hvalue
  cases hvalue
  have hrender : a.render = "::ffff:102:304".toList := by decide
  rw [Url.Host.render, hrender] at hread hsame
  exact ⟨r, hprepare, habsent, hfield, rfl, hread, hsame⟩

end Http1Client
