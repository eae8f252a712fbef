import Scratchpad.Proofs.Url.Address
import Scratchpad.Proofs.Url.Authority
import Scratchpad.Proofs.Url.Domain.Form

/-!
# Hosts are read back

A host that was read is read again from what is written for it, with the exception that domains
have, and its text ends where it is seen to end.
-/

set_option autoImplicit false

namespace Scratchpad.Url.Host

/-! ## What is read -/

/-- The hosts that are read from texts. -/
inductive IsRead : Host → Prop where
  | domain {text name : List Char} (formed : Domain.ascii? text = some name)
      (allowed : ∀ c ∈ name, isForbiddenInDomain c = false) (filled : name ≠ [])
      (unnumbered : Ipv4.endsInNumber name = false) : IsRead (.domain name)
  | ipv4 {address : Nat} (small : address < 2 ^ 32) : IsRead (.ipv4 address)
  | ipv6 {pieces : List Nat} (address : Ipv6.IsAddress pieces) : IsRead (.ipv6 pieces)

theorem isRead_of_ofDomain {text name : List Char} {host : Host}
    (formed : Domain.ascii? text = some name) (read : ofDomain name = .ok host) : IsRead host := by
  unfold ofDomain at read
  split at read
  · cases read
  rename_i allowed
  split at read
  · cases read
  rename_i filled
  split at read
  · split at read
    · rename_i address parsed
      cases read
      exact .ipv4 (Ipv4.lt_of_parse? parsed)
    · cases read
  · rename_i unnumbered
    cases read
    exact .domain formed (by simpa using allowed) (by simpa using filled)
      (Bool.eq_false_iff.mpr unnumbered)

theorem isRead_of_parse {text : List Char} {host : Host} (read : parse text = .ok host) :
    IsRead host := by
  unfold parse at read
  split at read
  · unfold bracketed at read
    split at read
    · cases read
    split at read
    · rename_i pieces parsed
      cases read
      exact .ipv6 (Ipv6.isAddress_of_parse? parsed)
    · cases read
  · split at read
    · split at read
      · rename_i name formed
        exact isRead_of_ofDomain formed read
      · cases read
    · cases read

/-! ## What is written -/

/-- A domain with a label that is too long to be read. -/
def isLong : Host → Bool
  | .domain name => (Text.split (· == '.') name).any Domain.isLong
  | _ => false

theorem of_not_isForbiddenInDomain {c : Char} (allowed : isForbiddenInDomain c = false) :
    isForbidden c = false ∧ 0x20 < c.toNat ∧ c.toNat ≠ 0x7F := by
  simp only [isForbiddenInDomain, Bool.or_eq_false_iff, controls, beq_eq_false_iff_ne,
    decide_eq_false_iff_not] at allowed
  obtain ⟨⟨free, above, undeleted⟩, -⟩ := allowed
  refine ⟨free, Nat.lt_of_le_of_ne (Nat.not_lt.mp above) fun space => ?_, undeleted⟩
  have same : c = ' ' := Char.toNat_inj.mp space.symm
  rw [same] at free
  cases free

/-- A text without encoded characters and without brackets is read as a domain. -/
theorem parse_of_plain {text : List Char} (unencoded : '%' ∉ text) (unbracketed : '[' ∉ text) :
    parse text = match Domain.ascii? text with
      | some name => ofDomain name
      | none => .error .invalidDomain := by
  unfold parse
  split
  · exact absurd List.mem_cons_self unbracketed
  · cases found : Domain.ascii? text <;>
      simp only [percentDecode_of_unencoded unencoded, Text.Utf8.decode_encode, found]

theorem parse_of_allowed {text : List Char} (allowed : ∀ c ∈ text, isForbiddenInDomain c = false) :
    parse text = match Domain.ascii? text with
      | some name => ofDomain name
      | none => .error .invalidDomain := by
  refine parse_of_plain (fun member => ?_) (fun member => ?_)
  · cases allowed '%' member
  · cases allowed '[' member

theorem of_mem_render_ipv4 {address : Nat} {c : Char} (member : c ∈ Ipv4.render address) :
    isForbiddenInDomain c = false ∧ c.toNat < 0x80 ∧ c.isUpper = false ∧ c ≠ 'x' := by
  rcases Ipv4.mem_render member with rfl | ⟨d, small, rfl⟩
  · decide
  · have all : ∀ d < 10, isForbiddenInDomain d.digitChar = false ∧ d.digitChar.toNat < 0x80 ∧
        d.digitChar.isUpper = false ∧ d.digitChar ≠ 'x' := by decide
    exact all d small

theorem parse_ipv4 {address : Nat} (small : address < 2 ^ 32) :
    parse (Ipv4.render address) = .ok (.ipv4 address) := by
  have allowed : ∀ c ∈ Ipv4.render address, isForbiddenInDomain c = false :=
    fun c member => (of_mem_render_ipv4 member).1
  have lower : Domain.IsLower (Ipv4.render address) := by
    intro c member
    obtain ⟨-, ascii, notUpper, -⟩ := of_mem_render_ipv4 member
    exact ⟨ascii, notUpper⟩
  have formed : Domain.ascii? (Ipv4.render address) = some (Ipv4.render address) := by
    refine Domain.ascii?_of_plain lower fun label present encoded => ?_
    obtain ⟨rest, rfl⟩ := encoded
    exact (of_mem_render_ipv4 (Text.mem_of_mem_split present List.mem_cons_self)).2.2.2 rfl
  have unforbidden : (Ipv4.render address).any isForbiddenInDomain = false :=
    List.any_eq_false.mpr fun c member => by simp [allowed c member]
  rw [parse_of_allowed allowed, formed]
  simp [ofDomain, unforbidden, Ipv4.render_ne_nil, Ipv4.endsInNumber_render, Ipv4.parse?_render small]

theorem parse_ipv6 {pieces : List Nat} (address : Ipv6.IsAddress pieces) :
    parse (Ipv6.render pieces) = .ok (.ipv6 pieces) := by
  rw [Ipv6.render_eq]
  simp [parse, bracketed, Ipv6.parse?_body address]

/-- A host is read as it is written, unless it is too long to be read. -/
theorem parse_render {host : Host} (read : IsRead host) :
    parse host.render = if host.isLong then .error .invalidDomain else .ok host := by
  cases read with
  | ipv4 small => exact parse_ipv4 small
  | ipv6 address => exact parse_ipv6 address
  | @domain text name formed allowed filled unnumbered =>
    have unforbidden : name.any isForbiddenInDomain = false :=
      List.any_eq_false.mpr fun c member => by simp [allowed c member]
    have own : ofDomain name = .ok (.domain name) := by
      simp [ofDomain, unforbidden, filled, unnumbered]
    rw [render, parse_of_allowed allowed, (Domain.ascii?_of_ascii? formed).2, isLong]
    cases (Text.split (· == '.') name).any Domain.isLong with
    | true => rfl
    | false => exact own

/-! ## Where the text of a host ends -/

theorem of_not_isForbidden {c : Char} (allowed : isForbidden c = false) :
    endsAuthority .special c = false ∧ c ≠ '@' ∧ c ≠ ':' ∧ c ≠ '[' := by
  refine ⟨Bool.eq_false_iff.mpr fun ends => ?_, ?_, ?_, ?_⟩
  · rcases endsAuthority_iff.mp ends with same | same | same | same <;> rw [same] at allowed <;>
      cases allowed
  all_goals
    intro same
    rw [same] at allowed
    cases allowed

theorem splitHost_stops {c : Char} (marked : c = ':' ∨ endsAuthority .special c = true)
    (rest : List Char) : splitHost .special false (c :: rest) = ([], c :: rest) := by
  rcases marked with rfl | ends
  · rfl
  · simp [splitHost, ends]

/-- Characters that neither end a host nor open or close a bracket are passed. -/
theorem splitHost_append {inside : Bool} {text : List Char}
    (passed : ∀ c ∈ text, ((c == ':' && !inside) || endsAuthority .special c) = false ∧
      (c == '[' || (inside && c != ']')) = inside) (rest : List Char) :
    splitHost .special inside (text ++ rest) =
      (text ++ (splitHost .special inside rest).1, (splitHost .special inside rest).2) := by
  induction text with
  | nil => rfl
  | cons c text ih =>
    obtain ⟨⟨unended, same⟩, later⟩ := List.forall_mem_cons.mp passed
    rw [List.cons_append, splitHost, unended, same, ih later]
    rfl

theorem isHostText_of_not_isForbidden {text : List Char} (filled : text ≠ [])
    (allowed : ∀ c ∈ text, isForbidden c = false) : IsHostText text := by
  refine ⟨filled, fun c member => (of_not_isForbidden (allowed c member)).1,
    fun member => (of_not_isForbidden (allowed '@' member)).2.1 rfl, fun c rest marked => ?_⟩
  rw [splitHost_append, splitHost_stops marked, List.append_nil]
  intro d member
  obtain ⟨unended, -, colon, bracket⟩ := of_not_isForbidden (allowed d member)
  simp [unended, colon, bracket]

theorem isHostText_brackets {text : List Char}
    (inside : ∀ c ∈ text, endsAuthority .special c = false ∧ c ≠ '@' ∧ c ≠ ']') :
    IsHostText ('[' :: (text ++ [']'])) := by
  have brackets {c : Char} (member : c ∈ '[' :: (text ++ [']'])) :
      c = '[' ∨ c ∈ text ∨ c = ']' := by
    simpa using member
  refine ⟨List.cons_ne_nil _ _, fun c member => ?_, fun member => ?_, fun c rest marked => ?_⟩
  · rcases brackets member with rfl | between | rfl
    · rfl
    · exact (inside c between).1
    · rfl
  · rcases brackets member with bracket | between | bracket
    · cases bracket
    · exact (inside '@' between).2.1 rfl
    · cases bracket
  · have closed : splitHost .special true (']' :: c :: rest) = ([']'], c :: rest) := by
      change (']' :: (splitHost .special false (c :: rest)).1,
        (splitHost .special false (c :: rest)).2) = _
      rw [splitHost_stops marked]
    have between : splitHost .special true (text ++ ']' :: c :: rest) =
        (text ++ [']'], c :: rest) := by
      rw [splitHost_append, closed]
      intro d member
      obtain ⟨unended, -, unclosed⟩ := inside d member
      simp [unended, unclosed]
    rw [List.cons_append, List.append_assoc]
    change ('[' :: (splitHost .special true (text ++ ']' :: c :: rest)).1,
      (splitHost .special true (text ++ ']' :: c :: rest)).2) = _
    rw [between]

theorem of_mem_body {pieces : List Nat} {c : Char} (member : c ∈ Ipv6.body pieces) :
    (0x20 < c.toNat ∧ c.toNat < 0x7F) ∧ endsAuthority .special c = false ∧ c ≠ '@' ∧ c ≠ ']' := by
  rcases Ipv6.mem_body member with rfl | ⟨d, small, rfl⟩
  · decide
  · have all : ∀ d < 16, (0x20 < d.digitChar.toNat ∧ d.digitChar.toNat < 0x7F) ∧
        endsAuthority .special d.digitChar = false ∧ d.digitChar ≠ '@' ∧ d.digitChar ≠ ']' := by
      decide
    exact all d small

theorem isHostText_render {host : Host} (read : IsRead host) : IsHostText host.render := by
  cases read with
  | domain formed allowed filled unnumbered =>
    exact isHostText_of_not_isForbidden filled fun c member =>
      (of_not_isForbiddenInDomain (allowed c member)).1
  | @ipv4 address small =>
    refine isHostText_of_not_isForbidden (Ipv4.render_ne_nil address) fun c member => ?_
    exact (of_not_isForbiddenInDomain (of_mem_render_ipv4 member).1).1
  | @ipv6 pieces address => exact isHostText_brackets fun c member => (of_mem_body member).2

theorem isVisible_render {host : Host} (read : IsRead host) : IsVisible host.render := by
  have ascii {c : Char} (allowed : isForbiddenInDomain c = false) (small : c.toNat < 0x80) :
      0x20 < c.toNat ∧ c.toNat < 0x7F := by
    obtain ⟨-, above, undeleted⟩ := of_not_isForbiddenInDomain allowed
    omega
  intro c member
  cases read with
  | domain formed allowed filled unnumbered =>
    exact ascii (allowed c member) ((Domain.ascii?_of_ascii? formed).1 c member).1
  | ipv4 small =>
    obtain ⟨allowed, small, -⟩ := of_mem_render_ipv4 member
    exact ascii allowed small
  | @ipv6 pieces address =>
    rw [render, Ipv6.render_eq, List.mem_cons, List.mem_append, List.mem_singleton] at member
    rcases member with rfl | between | rfl
    · decide
    · exact (of_mem_body between).1
    · decide

end Scratchpad.Url.Host
