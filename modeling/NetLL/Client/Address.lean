import NetLL.Client.Url

namespace NetLL
namespace Client

/-!
# Addresses

What stands behind the scheme of a URL: a host, a port that may be left out,
and a path that may be left out.  Both clients look for the first slash and the
first colon of it.  The two positions say where the parts are, whatever their
lengths, and although a path may hold colons.
-/

structure Address where
  host : List UInt8
  port : Option (List UInt8)
  path : Option (List UInt8)
  host_nonempty : host ≠ []
  host_is : ∀ byte ∈ host, byte ≠ 47 ∧ byte ≠ 58 ∧ byte ≠ 0
  port_is : ∀ digits, port = some digits → digits ≠ [] ∧ ∀ byte ∈ digits, Decimal.IsDigit byte
  path_is : ∀ bytes, path = some bytes → bytes.head? = some 47 ∧ 0 ∉ bytes

namespace Address

variable (address : Address)

/-- The port with the colon in front of it. -/
def portPart : List UInt8 :=
  (address.port.map (58 :: ·)).getD []

def pathPart : List UInt8 :=
  address.path.getD []

def bytes : List UInt8 :=
  address.host ++ address.portPart ++ address.pathPart

/-- The path that is asked for; an address without one asks for the root. -/
def resource : List UInt8 :=
  address.path.getD [47]

variable {address} in
theorem portPart_none (absent : address.port = none) : address.portPart = [] := by
  rw [portPart, absent]
  rfl

variable {address} in
theorem portPart_some {digits : List UInt8} (present : address.port = some digits) :
    address.portPart = 58 :: digits := by
  rw [portPart, present]
  rfl

variable {address} in
theorem pathPart_none (absent : address.path = none) : address.pathPart = [] := by
  rw [pathPart, absent]
  rfl

variable {address} in
theorem pathPart_some {bytes : List UInt8} (present : address.path = some bytes) :
    address.pathPart = bytes := by
  rw [pathPart, present]
  rfl

variable {address} in
/-- Without a port and a path, there is the host only. -/
theorem bytes_bare (portless : address.port = none) (pathless : address.path = none) :
    address.bytes = address.host := by
  rw [bytes, portPart_none portless, pathPart_none pathless, List.append_nil, List.append_nil]

theorem portPart_clean : 47 ∉ address.portPart ∧ 0 ∉ address.portPart := by
  cases present : address.port with
  | none =>
      rw [portPart_none present]
      exact ⟨List.not_mem_nil, List.not_mem_nil⟩
  | some digits =>
      have digit := (address.port_is digits present).2
      have slash : ¬ Decimal.IsDigit 47 := by decide
      have zero : ¬ Decimal.IsDigit 0 := by decide
      have colon : (47 : UInt8) ≠ 58 ∧ (0 : UInt8) ≠ 58 := by decide
      rw [portPart_some present, List.mem_cons, List.mem_cons, not_or, not_or]
      exact ⟨⟨colon.1, fun member => slash (digit 47 member)⟩,
        ⟨colon.2, fun member => zero (digit 0 member)⟩⟩

theorem slash_not_mem_front : 47 ∉ address.host ++ address.portPart := by
  rw [List.mem_append, not_or]
  exact ⟨fun member => (address.host_is 47 member).1 rfl, address.portPart_clean.1⟩

theorem zero_not_mem_bytes : 0 ∉ address.bytes := by
  have path : 0 ∉ address.pathPart := by
    cases present : address.path with
    | none =>
        rw [pathPart_none present]
        exact List.not_mem_nil
    | some bytes =>
        rw [pathPart_some present]
        exact (address.path_is bytes present).2
  simp only [bytes, List.mem_append, not_or]
  exact ⟨⟨fun member => (address.host_is 0 member).2.2 rfl, address.portPart_clean.2⟩, path⟩

theorem zero_not_mem_resource : 0 ∉ address.resource := by
  cases present : address.path with
  | none =>
      rw [resource, present]
      decide
  | some bytes =>
      rw [resource, present]
      exact (address.path_is bytes present).2

/-- The address as the cursor behind the scheme. -/
def cursor : CString where
  bytes := address.bytes
  clean := address.zero_not_mem_bytes

/-- The host, as a string. -/
def hostText : CString where
  bytes := address.host
  clean := fun member => (address.host_is 0 member).2.2 rfl

/-- What is asked for, as a string. -/
def resourceText : CString where
  bytes := address.resource
  clean := address.zero_not_mem_resource

/-! ## The first slash and the first colon -/

theorem strchr_slash : address.cursor.strchr 47 =
    address.path.map fun _ => (address.host ++ address.portPart).length := by
  cases present : address.path with
  | none =>
      have alone : address.cursor.bytes = address.host ++ address.portPart := by
        change address.bytes = _
        rw [bytes, pathPart_none present, List.append_nil]
      rw [CString.strchr, alone, Option.map_none, List.findIdx?_eq_none_iff]
      intro byte member
      exact beq_false_of_ne fun same => address.slash_not_mem_front (same ▸ member)
  | some path =>
      have slash := (address.path_is path present).1
      cases path with
      | nil => cases slash
      | cons first rest =>
          cases slash
          apply CString.strchr_of_split _ rest
          · change address.bytes = _
            rw [bytes, pathPart_some present]
          · exact address.slash_not_mem_front

/-- The colon of a port is the first one, and a colon in the path is none. -/
theorem portFirst_colon : portFirst (address.cursor.strchr 58) (address.cursor.strchr 47) =
    address.port.map fun _ => address.host.length := by
  have clean : 58 ∉ address.host := fun member => (address.host_is 58 member).2.1 rfl
  rw [address.strchr_slash]
  cases present : address.port with
  | none =>
      have alone := portPart_none present
      have split : address.cursor.bytes = address.host ++ address.pathPart := by
        change address.bytes = _
        rw [bytes, alone, List.append_nil]
      rw [alone, List.append_nil]
      cases found : address.cursor.strchr 58 with
      | none => rfl
      | some position =>
          have past := CString.le_of_strchr _ _ split clean found
          cases path : address.path with
          | none =>
              rw [pathPart_none path, List.append_nil] at split
              rw [CString.strchr, split, List.findIdx?_eq_some_iff_getElem] at found
              exact absurd found.1 (Nat.not_lt.mpr past)
          | some bytes => simp [portFirst, past]
  | some digits =>
      have shown := portPart_some present
      have split : address.cursor.bytes =
          address.host ++ 58 :: (digits ++ address.pathPart) := by
        change address.bytes = _
        rw [bytes, shown, List.append_assoc, List.cons_append]
      have found := CString.strchr_of_split _ _ split clean
      cases path : address.path with
      | none => simp [portFirst, found]
      | some bytes => simp [portFirst, found, shown]

/-! ## Schemes -/

/-- An address does not begin with a scheme: behind its first colon there is a
digit, if the colon is not in the path. -/
theorem not_scheme_prefix (name : List UInt8) (slash : 47 ∉ name) (colon : 58 ∉ name) :
    ¬ name ++ [58, 47, 47] <+: address.bytes := by
  rintro ⟨rest, same⟩
  have split : address.cursor.bytes = name ++ 58 :: 47 :: 47 :: rest := by
    change address.bytes = _
    rw [← same, List.append_assoc]
    rfl
  have atColon := CString.strchr_of_split name _ split colon
  have atSlash : address.cursor.strchr 47 = some (name ++ [58]).length := by
    apply CString.strchr_of_split (name ++ [58]) (47 :: rest)
    · rw [split, List.append_assoc]
      rfl
    · simp [slash]
  have first := address.portFirst_colon
  have path := address.strchr_slash
  rw [atColon, atSlash, portFirst, Option.filter_some, Option.all_some, if_pos (by simp)]
    at first
  cases present : address.port with
  | none =>
      rw [present] at first
      cases first
  | some digits =>
      have shown := portPart_some present
      have nonempty := List.length_pos_iff.mpr (address.port_is digits present).1
      rw [present, Option.map_some, Option.some.injEq] at first
      rw [atSlash, shown] at path
      cases followed : address.path with
      | none =>
          rw [followed] at path
          cases path
      | some bytes =>
          rw [followed, Option.map_some, Option.some.injEq] at path
          simp only [List.length_append, List.length_cons, List.length_nil] at path
          omega

theorem bytes_of_port {digits : List UInt8} (present : address.port = some digits) :
    address.bytes = (address.host ++ [58]) ++ (digits ++ address.pathPart) := by
  rw [bytes, portPart_some present]
  simp only [List.append_assoc, List.cons_append, List.nil_append]

end Address
end Client
end NetLL
