import NetLL.Client.Address
import NetLL.Library.Scan

namespace NetLL
namespace Client
namespace RP2040

/-!
# What a URL is split into on RP2040

`ParseHttpUrl` takes the bytes in front of the first colon or slash for the
host, and whatever follows the colon for a port.  It refuses a host that is
empty or too long, but a port it does not look at: `atoi` makes a number of it.
So a URL of another scheme has its scheme as the host, and port zero.
-/

/-- The URL is these parts, behind an optional scheme, and the outputs are the
parts. -/
structure SplitsAs (url : CString) (parsed : HttpUrl) (address : Address) : Prop where
  whole : url.bytes = address.bytes ∨ url.bytes = ascii "http://" ++ address.bytes
  host_short : address.host.length < hostMaxLength
  port_small : ∀ digits, address.port = some digits → Decimal.value digits ≤ 65535
  host : parsed.host.bytes = address.host
  port : parsed.port.toNat = (address.port.map Decimal.value).getD 80
  uri : parsed.uri.bytes = address.resource

/-- A URL that is accepted is split into its parts. -/
def SoundSplit (url : CString) : Prop :=
  ∀ parsed, parseHttpUrl url = some parsed → ∃ address, SplitsAs url parsed address

/-- The cursor of `ParseHttpUrl` behind the scheme. -/
def behindScheme (url : CString) : CString :=
  if ascii "http://" <+: url.bytes then url.drop 7 else url

/-- Where the host ends. -/
def hostEnd (cursor : CString) : Nat :=
  ((portFirst (cursor.strchr 58) (cursor.strchr 47)).or (cursor.strchr 47)).getD cursor.length

/-- What stands between the colon and the path, or the end. -/
def portText (cursor : CString) (colon : Nat) : List UInt8 :=
  (cursor.bytes.take ((cursor.strchr 47).getD cursor.length)).drop (colon + 1)

/-- The host is refused, or there is no port, or the port is a numeral of
sixteen bits. -/
def PortReadable (url : CString) : Prop :=
  let cursor := behindScheme url
  hostEnd cursor = 0 ∨ hostMaxLength ≤ hostEnd cursor ∨
    ∀ colon, portFirst (cursor.strchr 58) (cursor.strchr 47) = some colon →
      portText cursor colon ≠ [] ∧ (∀ byte ∈ portText cursor colon, Decimal.IsDigit byte) ∧
        Decimal.value (portText cursor colon) ≤ 65535

/-! ## What is accepted -/

/-- A URL is accepted when its host is not refused, and the outputs are cut out
of the cursor. -/
theorem parseHttpUrl_eq_some {url : CString} {parsed : HttpUrl}
    (accepted : parseHttpUrl url = some parsed) :
    hostEnd (behindScheme url) ≠ 0 ∧ hostEnd (behindScheme url) < hostMaxLength ∧
      parsed.host = (behindScheme url).take (hostEnd (behindScheme url)) ∧
      parsed.port = (match portFirst ((behindScheme url).strchr 58)
          ((behindScheme url).strchr 47) with
        | some colon => UInt16.ofInt (atoi ((behindScheme url).drop (colon + 1)))
        | none => 80) ∧
      parsed.uri = (match (behindScheme url).strchr 47 with
        | some path => (behindScheme url).drop path
        | none => CString.literal "/") := by
  change (if _ : hostEnd (behindScheme url) = 0 ∨ hostMaxLength ≤ hostEnd (behindScheme url)
    then none else some _) = some parsed at accepted
  split at accepted
  · cases accepted
  · rename_i fits
    cases accepted
    rw [not_or, Nat.not_le] at fits
    exact ⟨fits.1, fits.2, rfl, rfl, rfl⟩

theorem parseHttpUrl_isSome {url : CString} (nonempty : hostEnd (behindScheme url) ≠ 0)
    (short : hostEnd (behindScheme url) < hostMaxLength) :
    ∃ parsed, parseHttpUrl url = some parsed :=
  ⟨_, dif_neg (not_or.mpr ⟨nonempty, Nat.not_le.mpr short⟩)⟩

/-! ## What an address is split into -/

section

variable {address : Address}

theorem hostEnd_cursor : hostEnd address.cursor = address.host.length := by
  unfold hostEnd
  rw [address.portFirst_colon, address.strchr_slash]
  cases port : address.port with
  | some digits => rfl
  | none =>
      cases path : address.path with
      | some bytes =>
          rw [Address.portPart_none port, List.append_nil]
          rfl
      | none => exact congrArg List.length (Address.bytes_bare port path)

theorem portText_cursor {digits : List UInt8} (present : address.port = some digits) :
    portText address.cursor address.host.length = digits := by
  have shown := Address.portPart_some present
  have front : address.bytes.take ((address.path.map fun _ =>
      (address.host ++ address.portPart).length).getD address.bytes.length) =
        (address.host ++ [58]) ++ digits := by
    have parts : (address.host ++ [58]) ++ digits = address.host ++ address.portPart := by
      rw [shown, List.append_assoc]
      rfl
    rw [parts, Address.bytes]
    cases path : address.path with
    | none =>
        rw [Option.map_none, Option.getD_none, List.take_length, Address.pathPart_none path,
          List.append_nil]
    | some bytes => rw [Option.map_some, Option.getD_some, List.take_left]
  have size : address.host.length + 1 = (address.host ++ [58]).length := by simp
  unfold portText
  rw [address.strchr_slash]
  change (address.bytes.take _).drop _ = _
  rw [size]
  exact (congrArg _ front).trans List.drop_left

theorem atoi_cursor {digits : List UInt8} (present : address.port = some digits) :
    atoi (address.cursor.drop (address.host.length + 1)) = Decimal.value digits := by
  have size : address.host.length + 1 = (address.host ++ [58]).length := by simp
  have behind : (address.cursor.drop (address.host.length + 1)).bytes =
      digits ++ address.pathPart := by
    change address.bytes.drop _ = _
    rw [address.bytes_of_port present, size, List.drop_left]
  rcases address.port_is digits present with ⟨nonempty, isDigit⟩
  have stopped : address.pathPart.takeWhile (Decimal.IsDigit ·) = [] := by
    cases path : address.path with
    | none =>
        rw [Address.pathPart_none path]
        rfl
    | some bytes =>
        have slash := (address.path_is bytes path).1
        rw [Address.pathPart_some path]
        cases bytes with
        | nil => rfl
        | cons first rest =>
            cases slash
            exact List.takeWhile_cons_of_neg (by decide)
  have number : (digits ++ address.pathPart).takeWhile (Decimal.IsDigit ·) = digits := by
    rw [List.takeWhile_append_of_pos fun byte member => decide_eq_true (isDigit byte member),
      stopped, List.append_nil]
  unfold atoi
  rw [behind]
  cases digits with
  | nil => exact absurd rfl nonempty
  | cons first rest =>
      have all : ∀ byte, Decimal.IsDigit byte → ¬ IsSpace byte :=
        Scan.all_bytes (by decide +kernel)
      have digit := isDigit first List.mem_cons_self
      rcases Scan.digit_begins digit with ⟨_, minus, plus⟩
      rw [List.cons_append, List.dropWhile_cons_of_neg (by simpa using all first digit)]
      split
      · rename_i same
        exact absurd (List.cons.inj same).1 minus
      · rename_i same
        exact absurd (List.cons.inj same).1 plus
      · rw [← List.cons_append, number]

/-- Behind the scheme, an address is accepted with its parts as the outputs. -/
theorem splitsAs_of_cursor {url : CString} {parsed : HttpUrl}
    (accepted : parseHttpUrl url = some parsed) (same : behindScheme url = address.cursor)
    (small : ∀ digits, address.port = some digits → Decimal.value digits ≤ 65535) :
    SplitsAs url parsed address := by
  rcases parseHttpUrl_eq_some accepted with ⟨_, short, host, port, uri⟩
  rw [same] at short host port uri
  rw [hostEnd_cursor] at short host
  rw [address.portFirst_colon] at port
  rw [address.strchr_slash] at uri
  constructor
  · unfold behindScheme at same
    split at same
    · rename_i scheme
      right
      rcases scheme with ⟨rest, split⟩
      have behind : url.bytes.drop 7 = rest := by
        rw [← split]
        exact List.drop_left' (by decide)
      rw [← split, ← behind]
      exact congrArg _ (congrArg CString.bytes same)
    · exact Or.inl (congrArg CString.bytes same)
  · exact short
  · exact small
  · rw [host]
    change address.bytes.take _ = _
    rw [Address.bytes, List.append_assoc, List.take_left]
  · rw [port]
    cases present : address.port with
    | none => rfl
    | some digits =>
        have fits := small digits present
        simp only [Option.map_some, Option.getD_some, atoi_cursor present]
        have word : UInt16.ofInt (Decimal.value digits : Int) =
            UInt16.ofNat (Decimal.value digits) := by
          have same : ((Decimal.value digits : Int) % 2 ^ 16).toNat = Decimal.value digits := by
            omega
          rw [UInt16.ofInt, same]
        rw [word]
        exact UInt16.toNat_ofNat_of_lt (Nat.lt_succ_of_le fits)
  · rw [uri, Address.resource]
    cases path : address.path with
    | none => rfl
    | some bytes =>
        change address.bytes.drop _ = _
        rw [Address.bytes, List.drop_left, Address.pathPart_some path]
        rfl

end

/-! ## What is split is an address -/

theorem path_is_drop (cursor : CString) {path : Nat} (found : cursor.strchr 47 = some path) :
    (cursor.bytes.drop path).head? = some 47 ∧ 0 ∉ cursor.bytes.drop path := by
  rcases CString.split_of_strchr found with ⟨_, _, behind⟩
  refine ⟨by rw [behind]; rfl, fun member => cursor.clean (List.mem_of_mem_drop member)⟩

theorem portFirst_some {cursor : CString} {colon : Nat}
    (first : portFirst (cursor.strchr 58) (cursor.strchr 47) = some colon) :
    cursor.strchr 58 = some colon ∧ colon < (cursor.strchr 47).getD cursor.length := by
  rcases Option.filter_eq_some_iff.mp first with ⟨found, before⟩
  refine ⟨found, ?_⟩
  cases path : cursor.strchr 47 with
  | none => exact (CString.split_of_strchr found).1
  | some path =>
      rw [path, Option.all_some, decide_eq_true_eq] at before
      exact before

theorem portFirst_none {cursor : CString}
    (first : portFirst (cursor.strchr 58) (cursor.strchr 47) = none) :
    58 ∉ cursor.bytes.take ((cursor.strchr 47).getD cursor.length) := by
  cases found : cursor.strchr 58 with
  | none => exact fun member => CString.strchr_eq_none_iff.mp found (List.mem_of_mem_take member)
  | some colon =>
      have clean := (CString.split_of_strchr found).2.1
      rw [found, portFirst, Option.filter_eq_none_iff] at first
      cases slash : cursor.strchr 47 with
      | none =>
          rw [slash] at first
          exact absurd rfl (first colon rfl)
      | some path =>
          have past : path ≤ colon := by
            rw [slash] at first
            simpa using first
          exact fun member => clean (List.take_subset_take_left _ past member)

theorem slash_not_mem_take (cursor : CString) :
    47 ∉ cursor.bytes.take ((cursor.strchr 47).getD cursor.length) := by
  cases path : cursor.strchr 47 with
  | none => exact fun member => CString.strchr_eq_none_iff.mp path (List.mem_of_mem_take member)
  | some path => exact (CString.split_of_strchr path).2.1

/-- What is in front of the path is the host, or it is the host, the colon and
the port. -/
theorem front_split (cursor : CString) :
    cursor.bytes.take ((cursor.strchr 47).getD cursor.length) =
      cursor.bytes.take (hostEnd cursor) ++
        (((portFirst (cursor.strchr 58) (cursor.strchr 47)).map (portText cursor)).map
          (58 :: ·)).getD [] := by
  cases first : portFirst (cursor.strchr 58) (cursor.strchr 47) with
  | none =>
      rw [hostEnd, first, Option.none_or, Option.map_none, Option.map_none, Option.getD_none,
        List.append_nil]
  | some colon =>
      rcases portFirst_some first with ⟨found, before⟩
      have behind := (CString.split_of_strchr found).2.2
      have size : (cursor.strchr 47).getD cursor.length - colon =
          (cursor.strchr 47).getD cursor.length - (colon + 1) + 1 := by omega
      rw [hostEnd, first]
      simp only [Option.some_or, Option.map_some, Option.getD_some, portText, List.drop_take]
      rw [← List.take_succ_cons, ← behind, ← size, ← List.take_add, Nat.add_sub_cancel' before.le]

/-- The host, what comes of the port, and the path are the whole cursor. -/
theorem whole_split (cursor : CString) :
    cursor.bytes.take (hostEnd cursor) ++
      (((portFirst (cursor.strchr 58) (cursor.strchr 47)).map (portText cursor)).map
        (58 :: ·)).getD [] ++ ((cursor.strchr 47).map (cursor.bytes.drop ·)).getD [] =
      cursor.bytes := by
  rw [← front_split cursor]
  cases cursor.strchr 47 with
  | none => exact (List.append_nil _).trans List.take_length
  | some path => exact List.take_append_drop _ _

theorem host_is_take (cursor : CString) {byte : UInt8}
    (member : byte ∈ cursor.bytes.take (hostEnd cursor)) : byte ≠ 47 ∧ byte ≠ 58 ∧ byte ≠ 0 := by
  have inFront : byte ∈ cursor.bytes.take ((cursor.strchr 47).getD cursor.length) := by
    rw [front_split]
    exact List.mem_append_left _ member
  refine ⟨fun slash => ?_, fun colon => ?_, fun zero => ?_⟩
  · subst slash
    exact slash_not_mem_take cursor inFront
  · subst colon
    cases first : portFirst (cursor.strchr 58) (cursor.strchr 47) with
    | none => exact portFirst_none first inFront
    | some colon =>
        rw [hostEnd, first] at member
        exact (CString.split_of_strchr (portFirst_some first).1).2.1 member
  · subst zero
    exact cursor.clean (List.mem_of_mem_take member)

/-- A cursor whose host is not empty, and whose port, if there is one, is a
numeral, is an address. -/
theorem exists_address {cursor : CString} (nonempty : hostEnd cursor ≠ 0)
    (ports : ∀ colon, portFirst (cursor.strchr 58) (cursor.strchr 47) = some colon →
      portText cursor colon ≠ [] ∧ ∀ byte ∈ portText cursor colon, Decimal.IsDigit byte) :
    ∃ address : Address, address.cursor = cursor := by
  refine ⟨{
    host := cursor.bytes.take (hostEnd cursor)
    port := (portFirst (cursor.strchr 58) (cursor.strchr 47)).map (portText cursor)
    path := (cursor.strchr 47).map (cursor.bytes.drop ·)
    host_nonempty := ?_
    host_is := fun _ => host_is_take cursor
    port_is := ?_
    path_is := ?_ }, ?_⟩
  · rw [ne_eq, List.take_eq_nil_iff, not_or]
    refine ⟨nonempty, fun empty => nonempty ?_⟩
    simp [hostEnd, portFirst, CString.strchr, CString.length, empty]
  · intro digits present
    rcases Option.map_eq_some_iff.mp present with ⟨colon, first, same⟩
    rw [← same]
    exact ports colon first
  · intro bytes present
    rcases Option.map_eq_some_iff.mp present with ⟨path, found, same⟩
    rw [← same]
    exact path_is_drop cursor found
  · ext1
    exact whole_split cursor

/-- An address behind the scheme, or without one, is what the cursor is. -/
theorem behindScheme_of_whole {url : CString} {address : Address}
    (whole : url.bytes = address.bytes ∨ url.bytes = ascii "http://" ++ address.bytes) :
    behindScheme url = address.cursor := by
  unfold behindScheme
  ext1
  rcases whole with bare | schemed
  · have absent : ¬ ascii "http://" <+: url.bytes := by
      rw [bare]
      exact address.not_scheme_prefix (ascii "http") (by decide) (by decide)
    rw [if_neg absent, bare]
    rfl
  · have present : ascii "http://" <+: url.bytes := by
      rw [schemed]
      exact List.prefix_append _ _
    rw [if_pos present]
    change url.bytes.drop 7 = _
    rw [schemed]
    exact List.drop_left' (by decide)

theorem portReadable_of_soundSplit {url : CString} (sound : SoundSplit url) :
    PortReadable url := by
  by_cases empty : hostEnd (behindScheme url) = 0
  · exact Or.inl empty
  by_cases long : hostMaxLength ≤ hostEnd (behindScheme url)
  · exact Or.inr (Or.inl long)
  refine Or.inr (Or.inr ?_)
  rcases parseHttpUrl_isSome empty (Nat.lt_of_not_le long) with ⟨parsed, accepted⟩
  rcases sound parsed accepted with ⟨address, splits⟩
  rw [behindScheme_of_whole splits.whole]
  intro colon first
  rw [address.portFirst_colon] at first
  rcases Option.map_eq_some_iff.mp first with ⟨digits, present, same⟩
  rw [← same, portText_cursor present]
  rcases address.port_is digits present with ⟨nonempty, isDigit⟩
  exact ⟨nonempty, isDigit, splits.port_small digits present⟩

theorem soundSplit_of_portReadable {url : CString} (readable : PortReadable url) :
    SoundSplit url := by
  intro parsed accepted
  rcases parseHttpUrl_eq_some accepted with ⟨nonempty, short, _⟩
  rcases readable with empty | long | ports
  · exact absurd empty nonempty
  · exact absurd long (Nat.not_le.mpr short)
  · rcases exists_address nonempty (fun colon first =>
      ⟨(ports colon first).1, (ports colon first).2.1⟩) with ⟨address, same⟩
    refine ⟨address, splitsAs_of_cursor accepted same.symm ?_⟩
    intro digits present
    have first := address.portFirst_colon
    rw [present, same] at first
    have small := (ports _ first).2.2
    rwa [← same, portText_cursor present] at small

/-- A URL is split into its parts or refused, if and only if its host is refused
or its port, if it has one, is a numeral of sixteen bits. -/
theorem soundSplit_iff (url : CString) : SoundSplit url ↔ PortReadable url :=
  ⟨portReadable_of_soundSplit, soundSplit_of_portReadable⟩

/-- `https://host/` is accepted.  The host is the scheme, the port is zero, and
the path is the rest. -/
theorem https_is_split :
    (∃ parsed, parseHttpUrl (CString.literal "https://host/") = some parsed ∧
      parsed.host = CString.literal "https" ∧ parsed.port = 0 ∧
      parsed.uri = CString.literal "//host/") ∧
    ¬ SoundSplit (CString.literal "https://host/") := by
  refine ⟨⟨_, rfl, by decide, by decide, by decide⟩, fun sound => ?_⟩
  rcases portReadable_of_soundSplit sound with empty | long | ports
  · exact absurd empty (by decide)
  · exact absurd long (by decide)
  · exact absurd rfl (ports 5 (by decide)).1

end RP2040
end Client
end NetLL
