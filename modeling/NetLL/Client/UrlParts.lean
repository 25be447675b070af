import NetLL.Client.Address
import NetLL.Client.Download

namespace NetLL
namespace Client
namespace Simulator

/-!
# The parts of a URL on the Simulator

`ParseUrl` finds every part of a URL, and copies it into a buffer that may be
too small for it.  What does not fit is left out without a word, and the
download goes on with another host, another port or another path.

The port is handed to `getaddrinfo` as text, and the port that is contacted has
16 bits.  A numeral that is too large for it is refused or cut there.
-/

inductive Scheme where
  | absent
  | http
  | https
deriving DecidableEq, Repr

def Scheme.bytes : Scheme → List UInt8
  | .absent => []
  | .http => ascii "http://"
  | .https => ascii "https://"

/-- A port number is below this. -/
def portLimit : Nat := 65536

/-- The port that `getaddrinfo` makes of the text of a service.  It may refuse
the text. -/
abbrev Resolver := List UInt8 → Option Nat

/-- What `getaddrinfo` does with the decimal text of a port. -/
structure Resolver.ResolvesPorts (resolver : Resolver) : Prop where
  numeral : ∀ digits, digits ≠ [] → (∀ byte ∈ digits, Decimal.IsDigit byte) →
    Decimal.value digits < portLimit → resolver digits = some (Decimal.value digits)
  limited : ∀ text port, resolver text = some port → port < portLimit

/-- A URL by its parts. -/
structure UrlParts where
  scheme : Scheme
  address : Address

namespace UrlParts

variable (url : UrlParts)

/-- The URL as it is handed to the client. -/
def text : CString where
  bytes := url.scheme.bytes ++ url.address.bytes
  clean := by
    have scheme : (0 : UInt8) ∉ url.scheme.bytes := by cases url.scheme <;> decide
    rw [List.mem_append, not_or]
    exact ⟨scheme, url.address.zero_not_mem_bytes⟩

def https : Bool :=
  decide (url.scheme = .https)

/-- The port that stands in the URL, or the one of its scheme. -/
def portNumber : Nat :=
  match url.address.port with
  | some digits => Decimal.value digits
  | none => if url.https then 443 else 80

/-- Every part fits its buffer, and the port its 16 bits.  A port of many zeros
is the port zero, however many of them are left. -/
structure Fits : Prop where
  host : url.address.host.length < hostSize
  port : ∀ digits, url.address.port = some digits →
    Decimal.value digits < portLimit ∧ (digits.length < portSize ∨ Decimal.value digits = 0)
  path : url.address.resource.length < pathSize

/-- `getaddrinfo` refuses what the buffer holds of the port. -/
def PortRefused (resolver : Resolver) : Prop :=
  ∃ digits, url.address.port = some digits ∧ resolver (digits.take (portSize - 1)) = none

end UrlParts

/-! ## What a download is to do with the parts -/

/-- Only what `getaddrinfo` resolves is connected to. -/
def Environment.Obeys (environment : Environment) (resolver : Resolver) : Prop :=
  ∀ host port, environment.connects host port = true → resolver port.bytes ≠ none

/-- The event reaches another party. -/
def DownloadEvent.Contacts : DownloadEvent → Prop
  | .connected _ _ => True
  | .secured _ => True
  | .requested _ => True
  | _ => False

/-- What the event tells another party is what the URL says. -/
def DownloadEvent.ExactFor (resolver : Resolver) (environment : Environment) (url : UrlParts) :
    DownloadEvent → Prop
  | .connected host port =>
      host = url.address.hostText ∧ resolver port.bytes = some url.portNumber
  | .secured host => host = url.address.hostText
  | .requested accepted =>
      accepted = sendRequest environment.sent
        (buildRequest url.address.hostText url.address.resourceText)
  | _ => True

/-- A download contacts nobody and returns false, or it connects to the host and
the port of the URL and asks for its path, and for nothing else anywhere. -/
def ExactOrRefused (resolver : Resolver) (url : UrlParts) : Prop :=
  ∀ environment filePath download, environment.Obeys resolver →
    httpDownloadFile environment url.text filePath = .done download →
      (download.returned = false ∧ ∀ event ∈ download.events, ¬ event.Contacts) ∨
        ((∃ host port, DownloadEvent.connected host port ∈ download.events) ∧
          (download.returned = true → ∃ accepted, .requested accepted ∈ download.events) ∧
          ∀ event ∈ download.events, event.ExactFor resolver environment url)

/-! ## Taking a URL apart -/

theorem take_clamp (bytes : List UInt8) (size : Nat) (positive : 0 < size) :
    bytes.take (clamp bytes.length size) = bytes.take (size - 1) := by
  unfold clamp
  split
  · rfl
  · rw [List.take_length, List.take_of_length_le (by omega)]

namespace UrlParts

variable (url : UrlParts)

theorem parseScheme_text : parseScheme url.text = (url.https, url.address.cursor) := by
  rcases url with ⟨scheme, address⟩
  cases scheme with
  | absent =>
      have notHttps : ¬ ascii "https://" <+: address.bytes :=
        address.not_scheme_prefix (ascii "https") (by decide) (by decide)
      have notHttp : ¬ ascii "http://" <+: address.bytes :=
        address.not_scheme_prefix (ascii "http") (by decide) (by decide)
      exact (if_neg notHttps).trans (if_neg notHttp)
  | http =>
      have notHttps : ¬ ascii "https://" <+: ascii "http://" ++ address.bytes := by simp [ascii]
      have behind : (text ⟨.http, address⟩).drop 7 = address.cursor := by
        ext1
        change (ascii "http://" ++ address.bytes).drop (ascii "http://").length = _
        exact List.drop_left
      refine (if_neg notHttps).trans ((if_pos (List.prefix_append _ _)).trans ?_)
      rw [behind]
      rfl
  | https =>
      have behind : (text ⟨.https, address⟩).drop 8 = address.cursor := by
        ext1
        change (ascii "https://" ++ address.bytes).drop (ascii "https://").length = _
        exact List.drop_left
      refine (if_pos (List.prefix_append _ _)).trans ?_
      rw [behind]
      rfl

theorem host_parseUrl : (parseUrl url.text).host.bytes = url.address.host.take (hostSize - 1) := by
  have front : ∀ length, length ≤ url.address.host.length →
      url.address.bytes.take length = url.address.host.take length := by
    intro length inside
    rw [Address.bytes, List.append_assoc, List.take_append_of_le_length inside]
  have kept : clamp url.address.host.length hostSize ≤ url.address.host.length := by
    unfold clamp
    split <;> omega
  rw [parseUrl, url.parseScheme_text]
  change (parseHost _ _ _).bytes = _
  rw [← take_clamp _ _ (by decide), ← front _ kept]
  unfold parseHost
  rw [url.address.portFirst_colon, url.address.strchr_slash]
  cases present : url.address.port with
  | some digits => rfl
  | none =>
      cases path : url.address.path with
      | some bytes =>
          rw [Address.portPart_none present, List.append_nil]
          rfl
      | none =>
          have whole : url.address.cursor.length = url.address.host.length :=
            congrArg List.length (Address.bytes_bare present path)
          simp only [Option.map_none, Option.getD_none, whole]
          rfl

theorem port_parseUrl : (parseUrl url.text).port.bytes =
    (url.address.port.getD (ascii (if url.https then "443" else "80"))).take (portSize - 1) := by
  rw [parseUrl, url.parseScheme_text]
  change (parsePort _ _ _ _).bytes = _
  unfold parsePort
  rw [url.address.portFirst_colon, url.address.strchr_slash]
  cases present : url.address.port with
  | none =>
      rw [Option.map_none, Option.getD_none]
      cases url.https <;> rfl
  | some digits =>
      have shown := Address.portPart_some present
      have behind : url.address.bytes.drop (url.address.host.length + 1) =
          digits ++ url.address.pathPart := by
        have front : (url.address.host ++ [58]).length = url.address.host.length + 1 := by simp
        rw [url.address.bytes_of_port present, ← front, List.drop_left]
      have size : ((url.address.path.map fun _ =>
          (url.address.host ++ url.address.portPart).length).getD url.address.cursor.length) -
            (url.address.host.length + 1) = digits.length := by
        cases path : url.address.path with
        | some bytes =>
            rw [Option.map_some, Option.getD_some, shown]
            simp
            omega
        | none =>
            have whole : url.address.cursor.length = (url.address.host ++ 58 :: digits).length := by
              change url.address.bytes.length = _
              rw [Address.bytes, shown, Address.pathPart_none path, List.append_nil]
            rw [Option.map_none, Option.getD_none, whole]
            simp
            omega
      have kept : clamp digits.length portSize ≤ digits.length := by
        unfold clamp
        split <;> omega
      simp only [Option.map_some, size]
      change (url.address.bytes.drop _).take _ = _
      rw [behind, List.take_append_of_le_length kept, take_clamp _ _ (by decide), Option.getD_some]

theorem path_parseUrl :
    (parseUrl url.text).path.bytes = url.address.resource.take (pathSize - 1) := by
  rw [parseUrl, url.parseScheme_text]
  change (parsePath _ _).bytes = _
  unfold parsePath
  rw [url.address.strchr_slash, Address.resource]
  cases path : url.address.path with
  | none => rfl
  | some bytes =>
      change (url.address.bytes.drop _).take _ = _
      rw [Address.bytes, List.drop_left, Address.pathPart_some path]
      rfl

end UrlParts

/-! ## The events of a download -/

namespace UrlParts

variable (url : UrlParts)

/-- The port in the URL, or the numeral that the scheme stands for. -/
theorem value_port :
    Decimal.value (url.address.port.getD (ascii (if url.https then "443" else "80"))) =
      url.portNumber := by
  unfold portNumber
  cases url.address.port with
  | some digits => rfl
  | none => cases url.https <;> rfl

theorem isDigit_port :
    ∀ byte ∈ url.address.port.getD (ascii (if url.https then "443" else "80")),
      Decimal.IsDigit byte := by
  cases present : url.address.port with
  | some digits => exact (url.address.port_is digits present).2
  | none => cases url.https <;> decide +kernel

variable {url}

theorem host_eq (short : url.address.host.length < hostSize) :
    (parseUrl url.text).host = url.address.hostText := by
  ext1
  rw [url.host_parseUrl, List.take_of_length_le (Nat.le_sub_one_of_lt short)]
  rfl

theorem path_eq (short : url.address.resource.length < pathSize) :
    (parseUrl url.text).path = url.address.resourceText := by
  ext1
  rw [url.path_parseUrl, List.take_of_length_le (Nat.le_sub_one_of_lt short)]
  rfl

theorem port_ne_nil : (parseUrl url.text).port.bytes ≠ [] := by
  rw [url.port_parseUrl, Ne, List.take_eq_nil_iff, not_or]
  refine ⟨by decide, ?_⟩
  cases present : url.address.port with
  | none => cases url.https <;> decide
  | some digits => exact (url.address.port_is digits present).1

theorem isDigit_parsed : ∀ byte ∈ (parseUrl url.text).port.bytes, Decimal.IsDigit byte := by
  rw [url.port_parseUrl]
  exact fun byte member => url.isDigit_port byte (List.mem_of_mem_take member)

theorem Fits.port_eq {resolver : Resolver} (resolves : resolver.ResolvesPorts)
    (fits : url.Fits) : resolver (parseUrl url.text).port.bytes = some url.portNumber := by
  have value : Decimal.value (parseUrl url.text).port.bytes = url.portNumber := by
    rw [url.port_parseUrl, ← url.value_port, Decimal.value_take_eq_iff]
    cases present : url.address.port with
    | none =>
        left
        cases url.https <;> decide
    | some digits =>
        rcases (fits.port digits present).2 with short | zero
        · exact Or.inl (Nat.le_sub_one_of_lt short)
        · exact Or.inr zero
  have small : url.portNumber < portLimit := by
    rw [portNumber]
    cases present : url.address.port with
    | none => cases url.https <;> decide
    | some digits => exact (fits.port digits present).1
  rw [resolves.numeral _ port_ne_nil isDigit_parsed (value ▸ small), value]

theorem portRefused_iff {resolver : Resolver} (resolves : resolver.ResolvesPorts) :
    url.PortRefused resolver ↔ resolver (parseUrl url.text).port.bytes = none := by
  rw [url.port_parseUrl]
  constructor
  · rintro ⟨digits, present, refused⟩
    rw [present]
    exact refused
  · intro refused
    cases present : url.address.port with
    | some digits =>
        rw [present] at refused
        exact ⟨digits, present, refused⟩
    | none =>
        rw [present] at refused
        cases secure : url.https with
        | true =>
            rw [secure, resolves.numeral _ (by decide) (by decide +kernel) (by decide)] at refused
            cases refused
        | false =>
            rw [secure, resolves.numeral _ (by decide) (by decide +kernel) (by decide)] at refused
            cases refused

/-- Nobody is contacted when the port is refused. -/
theorem PortRefused.exact {resolver : Resolver} (resolves : resolver.ResolvesPorts)
    (refused : url.PortRefused resolver) : ExactOrRefused resolver url := by
  intro environment filePath download obeys done
  rw [portRefused_iff resolves] at refused
  have connects : environment.connects (parseUrl url.text).host (parseUrl url.text).port =
      false := by
    rw [Bool.eq_false_iff]
    exact fun connects => obeys _ _ connects refused
  simp only [httpDownloadFile, connects, Bool.not_false, if_true] at done
  cases done
  refine Or.inl ⟨rfl, fun event member contacts => ?_⟩
  rw [List.mem_singleton.mp member] at contacts
  exact contacts

/-- Everything that a download tells another party is exact when every part of
the URL fits its buffer. -/
theorem Fits.exact {resolver : Resolver} (resolves : resolver.ResolvesPorts) (fits : url.Fits) :
    ExactOrRefused resolver url := by
  intro environment filePath download _ done
  have connected :
      (DownloadEvent.connected (parseUrl url.text).host (parseUrl url.text).port).ExactFor
        resolver environment url := ⟨host_eq fits.host, fits.port_eq resolves⟩
  rcases httpDownloadFile_cases done with refused | insecure | ⟨outcome, _, requested⟩
  · subst refused
    refine Or.inl ⟨rfl, fun event member contacts => ?_⟩
    rw [List.mem_singleton.mp member] at contacts
    exact contacts
  · subst insecure
    refine Or.inr ⟨⟨_, _, List.mem_cons_of_mem _ List.mem_cons_self⟩, Bool.noConfusion, ?_⟩
    intro event member
    simp only [List.mem_cons, List.not_mem_nil, or_false] at member
    rcases member with rfl | rfl | rfl
    · trivial
    · exact connected
    · trivial
  · subst requested
    refine Or.inr ⟨⟨(parseUrl url.text).host, (parseUrl url.text).port, by simp⟩,
      fun _ => ⟨_, List.mem_append_left _ (List.mem_append_left _ (List.mem_append_right _
        List.mem_cons_self))⟩, ?_⟩
    intro event member
    simp only [List.mem_append, List.mem_cons, List.not_mem_nil, or_false, List.mem_map] at member
    rcases member with ((((rfl | rfl) | secured) | rfl) | ⟨written, _, rfl⟩) | rfl
    · trivial
    · exact connected
    · split at secured
      · rw [List.mem_singleton.mp secured]
        exact host_eq fits.host
      · cases secured
    · change sendRequest _ _ = sendRequest _ _
      rw [host_eq fits.host, path_eq fits.path]
    · trivial
    · trivial

/-! ## The parts that do not fit -/

/-- Everybody who is resolved answers, the transport takes so many bytes, and
the peer closes without a response. -/
def reaching (resolver : Resolver) (count : Nat) : Environment where
  connects := fun _ port => (resolver port.bytes).isSome
  establishes := fun _ => true
  sent := .accepted count
  results := arrival [] .closed
  opens := fun _ => true
  headerBuffer := zeroBuffer
  beyond := []
  size := zeroBuffer_length

theorem reaching_obeys (resolver : Resolver) (count : Nat) :
    (reaching resolver count).Obeys resolver :=
  fun _ _ connects => Option.isSome_iff_ne_none.mp connects

theorem httpDownloadFile_reaching (resolver : Resolver) (count : Nat) (text filePath : CString)
    (resolved : resolver (parseUrl text).port.bytes ≠ none) :
    ∃ download, httpDownloadFile (reaching resolver count) text filePath = .done download ∧
      .connected (parseUrl text).host (parseUrl text).port ∈ download.events ∧
      .requested ((buildRequest (parseUrl text).host (parseUrl text).path).take count) ∈
        download.events := by
  have connects : (resolver (parseUrl text).port.bytes).isSome = true :=
    Option.isSome_iff_ne_none.mpr resolved
  have read : readResponseToFile true zeroBuffer [] (arrival [] .closed) =
      .done { returned := false, file := [] } := by
    rw [readResponseToFile_eq true zeroBuffer_length]
    rfl
  refine ⟨⟨false, [.createdDirectories filePath,
      .connected (parseUrl text).host (parseUrl text).port] ++
      (if (parseUrl text).https then [.secured (parseUrl text).host] else []) ++
      [.requested ((buildRequest (parseUrl text).host (parseUrl text).path).take count)] ++
      [.disconnected]⟩, ?_, ?_, ?_⟩
  · simp only [httpDownloadFile, reaching, connects, read]
    cases (parseUrl text).https <;> rfl
  · simp
  · simp

/-- What the peers are told tells what the parts were. -/
theorem fits_of_exactOrRefused {resolver : Resolver} (resolves : resolver.ResolvesPorts)
    (exact_ : ExactOrRefused resolver url) (accepted : ¬ url.PortRefused resolver) : url.Fits := by
  rw [portRefused_iff resolves] at accepted
  -- the whole request is taken, the one that is built and the one to be built
  rcases httpDownloadFile_reaching resolver
      ((buildRequest url.address.hostText url.address.resourceText).length + requestSize)
      url.text (CString.literal "file") accepted with ⟨download, done, connected, requested⟩
  have exact_ : ∀ event ∈ download.events, event.ExactFor resolver (reaching resolver
      ((buildRequest url.address.hostText url.address.resourceText).length + requestSize)) url := by
    rcases exact_ _ _ _ (reaching_obeys _ _) done with ⟨_, nobody⟩ | ⟨_, _, told⟩
    · exact absurd trivial (nobody _ connected)
    · exact told
  rcases exact_ _ connected with ⟨host, port⟩
  have path := exact_ _ requested
  constructor
  · have fits := (parseUrl url.text).hostFits
    rw [host] at fits
    exact fits
  · intro digits present
    have number : url.portNumber = Decimal.value digits := by rw [portNumber, present]
    have small := resolves.limited _ _ port
    refine ⟨number ▸ small, ?_⟩
    -- what is left of the numeral is no larger, so it is resolved to its own value
    have cut : Decimal.value (parseUrl url.text).port.bytes ≤ url.portNumber := by
      rw [url.port_parseUrl, ← url.value_port]
      exact Decimal.value_take_le _ _
    rw [resolves.numeral _ port_ne_nil isDigit_parsed (Nat.lt_of_le_of_lt cut small),
      Option.some.injEq, url.port_parseUrl, ← url.value_port, Decimal.value_take_eq_iff,
      present] at port
    rcases port with short | zero
    · exact Or.inl (Nat.lt_of_le_sub_one (by decide) short)
    · exact Or.inr zero
  · have short := (parseUrl url.text).pathFits
    have sizes := congrArg List.length path
    have requestFits := buildRequest_fits (parseUrl url.text)
    change _ = (List.take _ _).length at sizes
    rw [List.length_take, List.length_take, Nat.min_eq_right (by omega),
      Nat.min_eq_right (by omega), length_buildRequest, length_buildRequest, host] at sizes
    change url.address.resourceText.length < pathSize
    omega

end UrlParts

/-- A URL is contacted exactly or not at all, whatever the environment, if and
only if every part of it fits its place or `getaddrinfo` refuses the port. -/
theorem exactOrRefused_iff (resolver : Resolver) (resolves : resolver.ResolvesPorts)
    (url : UrlParts) : ExactOrRefused resolver url ↔ url.Fits ∨ url.PortRefused resolver := by
  constructor
  · intro exact_
    by_cases refused : url.PortRefused resolver
    · exact Or.inr refused
    · exact Or.inl (UrlParts.fits_of_exactOrRefused resolves exact_ refused)
  · rintro (fits | refused)
    · exact fits.exact resolves
    · exact refused.exact resolves

/-- glibc keeps 16 bits of what `strtoul` reads. -/
def glibcResolver : Resolver := fun text =>
  if text ≠ [] ∧ text.all fun byte => Decimal.IsDigit byte then
    some (min (Decimal.value text) (2 ^ 64 - 1) % portLimit)
  else none

theorem glibcResolver_resolvesPorts : glibcResolver.ResolvesPorts where
  numeral := by
    intro digits nonempty digit small
    have short : Decimal.value digits ≤ 2 ^ 64 - 1 :=
      Nat.le_trans (Nat.le_of_lt small) (by decide)
    have digits_ : digits.all (fun byte => Decimal.IsDigit byte) = true :=
      List.all_eq_true.mpr fun byte member => decide_eq_true (digit byte member)
    rw [glibcResolver, if_pos ⟨nonempty, digits_⟩, Nat.min_eq_left short, Nat.mod_eq_of_lt small]
  limited := by
    intro text port resolved
    unfold glibcResolver at resolved
    split at resolved
    · cases resolved
      exact Nat.mod_lt _ (by decide)
    · cases resolved

/-- The root of a short host, with a port. -/
def rootAt (port : Nat) : UrlParts where
  scheme := .http
  address := {
    host := ascii "host"
    port := some (Decimal.render port)
    path := some [47]
    host_nonempty := List.cons_ne_nil _ _
    host_is := by decide +kernel
    port_is := by
      rintro _ ⟨⟩
      exact ⟨Decimal.render_ne_nil port, Decimal.isDigit_render port⟩
    path_is := by
      rintro _ ⟨⟩
      exact ⟨rfl, by decide⟩ }

/-- The port 8080 is contacted, and 65616 is not: it has more than 16 bits. -/
theorem exactOrRefused_ports :
    ExactOrRefused glibcResolver (rootAt 8080) ∧
      ¬ ExactOrRefused glibcResolver (rootAt 65616) := by
  constructor
  · apply (exactOrRefused_iff _ glibcResolver_resolvesPorts _).mpr
    refine Or.inl ⟨by decide, ?_, by decide⟩
    rintro _ ⟨⟩
    refine ⟨?_, Or.inl (by decide +kernel)⟩
    rw [Decimal.value_render]
    decide
  · rw [exactOrRefused_iff _ glibcResolver_resolvesPorts]
    rintro (fits | ⟨_, ⟨⟩, refused⟩)
    · have small := (fits.port _ rfl).1
      rw [Decimal.value_render] at small
      exact absurd small (by decide)
    · exact absurd refused (by decide +kernel)

/-- A host that is one byte too long. -/
def longHost : UrlParts where
  scheme := .http
  address := {
    host := List.replicate hostSize 97
    port := none
    path := some (ascii "/file")
    host_nonempty := List.cons_ne_nil _ _
    host_is := by
      intro byte member
      rw [List.eq_of_mem_replicate member]
      decide
    port_is := by
      intro digits impossible
      cases impossible
    path_is := by
      intro bytes same
      cases same
      decide }

/-- The last byte of the host is left out, and another host is contacted. -/
theorem longHost_cut :
    (∃ download host port, httpDownloadFile (UrlParts.reaching glibcResolver requestSize)
        longHost.text (CString.literal "file") = .done download ∧
      .connected host port ∈ download.events ∧ host.bytes = List.replicate (hostSize - 1) 97 ∧
      host ≠ longHost.address.hostText) ∧
    ¬ ExactOrRefused glibcResolver longHost := by
  have accepted : ¬ longHost.PortRefused glibcResolver := by
    rintro ⟨digits, absent, _⟩
    cases absent
  rcases UrlParts.httpDownloadFile_reaching glibcResolver requestSize longHost.text
      (CString.literal "file")
      (accepted ∘ (UrlParts.portRefused_iff glibcResolver_resolvesPorts).mpr) with
    ⟨download, done, connected, _⟩
  have cut : (parseUrl longHost.text).host.bytes = List.replicate (hostSize - 1) 97 := by
    rw [longHost.host_parseUrl]
    exact List.take_replicate
  refine ⟨⟨download, _, _, done, connected, cut, ?_⟩, ?_⟩
  · intro same
    have sizes := congrArg List.length (cut.symm.trans (congrArg CString.bytes same))
    rw [List.length_replicate] at sizes
    change hostSize - 1 = (List.replicate hostSize (97 : UInt8)).length at sizes
    rw [List.length_replicate] at sizes
    exact absurd sizes (by decide)
  · intro exact_
    have short := (UrlParts.fits_of_exactOrRefused glibcResolver_resolvesPorts exact_ accepted).host
    change (List.replicate hostSize (97 : UInt8)).length < hostSize at short
    rw [List.length_replicate] at short
    exact Nat.lt_irrefl _ short

end Simulator
end Client
end NetLL
