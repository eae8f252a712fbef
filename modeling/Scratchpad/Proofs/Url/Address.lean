import Mathlib.Algebra.Group.Nat.Defs
import Scratchpad.Proofs.Json.Compact
import Scratchpad.Proofs.Text.Split
import Scratchpad.Url.Ipv6

/-!
# Addresses are read back

An address is written in one way of many in which it can be read, and read again as itself. For
this its numbers must be as small as those that are read.
-/

set_option autoImplicit false

namespace Scratchpad.Url

/-! ## Digits -/

theorem hexValue?_digitChar {n : Nat} (small : n < 16) :
    Json.hexValue? n.digitChar = some n := by
  have all : ∀ n < 16, Json.hexValue? n.digitChar = some n := by decide
  exact all n small

theorem exists_of_mem_toDigits {base n : Nat} (least : 1 < base) {c : Char}
    (member : c ∈ Nat.toDigits base n) : ∃ d < base, c = d.digitChar := by
  induction n using Nat.strongRecOn with
  | ind n ih =>
    by_cases single : n < base
    · rw [Nat.toDigits_of_lt_base single] at member
      exact ⟨n, single, List.mem_singleton.mp member⟩
    · rw [Nat.toDigits_of_base_le least (Nat.le_of_not_lt single)] at member
      rcases List.mem_append.mp member with before | last
      · exact ih (n / base) (Nat.div_lt_self (by omega) least) before
      · exact ⟨n % base, Nat.mod_lt n (by omega), List.mem_singleton.mp last⟩

namespace Ipv4

theorem digits?_append (base : Nat) (cs : List Char) (c : Char) :
    digits? base (cs ++ [c]) = (digits? base cs).bind fun n =>
      (Json.hexValue? c).bind fun d => if d < base then some (n * base + d) else none := by
  simp [digits?, List.foldlM_append, Option.bind_eq_bind]

/-- A number is read back from its digits in every base up to sixteen. -/
theorem digits?_toDigits {base : Nat} (least : 1 < base) (most : base ≤ 16) (n : Nat) :
    digits? base (Nat.toDigits base n) = some n := by
  have read {d : Nat} (digit : d < base) : Json.hexValue? d.digitChar = some d :=
    hexValue?_digitChar (Nat.lt_of_lt_of_le digit most)
  induction n using Nat.strongRecOn with
  | ind n ih =>
    by_cases single : n < base
    · rw [Nat.toDigits_of_lt_base single]
      simp [digits?, read single, single]
    · have low : n % base < base := Nat.mod_lt n (by omega)
      rw [Nat.toDigits_of_base_le least (Nat.le_of_not_lt single), digits?_append,
        ih (n / base) (Nat.div_lt_self (by omega) least), Option.bind_some, read low,
        Option.bind_some, if_pos low, Nat.mul_comm, Nat.div_add_mod]

theorem lt_of_digits? {base : Nat} {cs : List Char} {n : Nat} (read : digits? base cs = some n) :
    n < base ^ cs.length := by
  -- Read on from any number, which only grows by the digits that follow.
  suffices ∀ start, cs.foldlM (fun n c => do
      let d ← Json.hexValue? c
      if d < base then some (n * base + d) else none) start = some n →
      n < (start + 1) * base ^ cs.length by
    simpa using this 0 read
  clear read
  induction cs with
  | nil =>
    intro start read
    cases read
    simp
  | cons c cs ih =>
    intro start read
    simp only [List.foldlM_cons, Option.bind_eq_bind, Option.bind_eq_some_iff] at read
    obtain ⟨next, ⟨d, -, taken⟩, further⟩ := read
    split at taken
    · rename_i small
      cases taken
      have grown : start * base + d + 1 ≤ (start + 1) * base := by
        rw [Nat.add_mul, Nat.one_mul]
        omega
      calc n
        _ < (start * base + d + 1) * base ^ cs.length := ih _ further
        _ ≤ (start + 1) * base * base ^ cs.length := Nat.mul_le_mul_right _ grown
        _ = (start + 1) * base ^ (c :: cs).length := by
          rw [List.length_cons, Nat.pow_succ, Nat.mul_assoc, Nat.mul_comm base]
    · cases taken

/-! ## Four bytes -/

theorem lt_of_combine {bytes : List Nat} {last address : Nat} (few : bytes.length ≤ 3)
    (made : combine bytes last = some address) : address < 2 ^ 32 := by
  unfold combine at made
  split at made
  · cases made
  · rename_i fits
    simp only [Bool.or_eq_true, decide_eq_true_eq, List.any_eq_true, not_or, not_exists,
      not_and, Nat.not_lt, Nat.not_le] at fits
    obtain ⟨small, each⟩ := fits
    cases made
    match bytes, few, small, each with
    | [], _, small, _ => simpa using small
    | [a], _, small, each => 
      have first := each a (by simp)
      simp at small ⊢
      omega
    | [a, b], _, small, each =>
      have first := each a (by simp)
      have second := each b (by simp)
      simp at small ⊢
      omega
    | [a, b, c], _, small, each =>
      have first := each a (by simp)
      have second := each b (by simp)
      have third := each c (by simp)
      simp at small ⊢
      omega

theorem lt_of_parse? {host : List Char} {address : Nat} (read : parse? host = some address) :
    address < 2 ^ 32 := by
  simp only [parse?, Option.bind_eq_bind, Option.bind_eq_some_iff] at read
  obtain ⟨numbers, -, last, -, made⟩ := read
  split at made
  · cases made
  · exact lt_of_combine (by rw [List.length_dropLast]; omega) made

theorem number?_toDigits (n : Nat) : number? (Nat.toDigits 10 n) = some n := by
  by_cases zero : n = 0
  · rw [zero, Nat.toDigits_zero]
    rfl
  · have head : ∀ rest, Nat.toDigits 10 n = '0' :: rest → False := by
      intro rest digits
      exact zero (Json.eq_zero_of_head_toDigits n (by rw [digits, List.head?_cons]))
    have read : digits? 10 (Nat.toDigits 10 n) = some n :=
      digits?_toDigits (by decide) (by decide) n
    have filled : Nat.toDigits 10 n ≠ [] := Nat.toDigits_ne_nil
    generalize Nat.toDigits 10 n = digits at head read filled
    unfold number?
    split
    · exact absurd rfl filled
    · exact absurd rfl (head _)
    · exact absurd rfl (head _)
    · exact absurd rfl (head _)
    · exact read

theorem mem_render {address : Nat} {c : Char} (member : c ∈ render address) :
    c = '.' ∨ ∃ d < 10, c = d.digitChar := by
  rcases Text.mem_join_of member with dot | ⟨part, present, digit⟩
  · exact .inl (List.mem_singleton.mp dot)
  · obtain ⟨n, -, rfl⟩ := List.mem_map.mp present
    exact .inr (exists_of_mem_toDigits (by decide) digit)

theorem split_render (address : Nat) :
    Text.split (· == '.') (render address) = (bytes address).map (Nat.toDigits 10) := by
  refine Text.split_join (by simp [bytes]) fun part member dot => ?_
  obtain ⟨n, -, rfl⟩ := List.mem_map.mp member
  obtain ⟨d, small, same⟩ := exists_of_mem_toDigits (by decide) dot
  have all : ∀ d < 10, '.' ≠ d.digitChar := by decide
  exact all d small same

theorem parts_render (address : Nat) :
    parts (render address) = (bytes address).map (Nat.toDigits 10) := by
  rw [parts, split_render, if_neg]
  simp [bytes, Nat.toDigits_ne_nil]

theorem endsInNumber_render (address : Nat) : endsInNumber (render address) = true := by
  have last : (parts (render address)).getLast? = some (Nat.toDigits 10 (address % 256)) := by
    rw [parts_render]
    rfl
  rw [endsInNumber, last]
  simp [Nat.toDigits_ne_nil, number?_toDigits]

theorem render_ne_nil (address : Nat) : render address ≠ [] := by
  intro empty
  have numbered := endsInNumber_render address
  rw [empty] at numbered
  cases numbered

/-- An address is read as it is written. -/
theorem parse?_render {address : Nat} (small : address < 2 ^ 32) :
    parse? (render address) = some address := by
  have numbers : (parts (render address)).mapM number? = some (bytes address) := by
    rw [parts_render]
    simp [bytes, number?_toDigits]
  rw [parse?, numbers]
  simp [bytes, combine]
  omega

end Ipv4

/-! ## Eight pieces -/

namespace Ipv6

/-- What is read as an address. -/
structure IsAddress (pieces : List Nat) : Prop where
  length : pieces.length = 8
  small : ∀ piece ∈ pieces, piece < 65536

theorem lt_of_piece? {cs : List Char} {piece : Nat} (read : piece? cs = some piece) :
    piece < 65536 := by
  unfold piece? at read
  split at read
  · cases read
  · rename_i short
    simp only [Bool.or_eq_true, decide_eq_true_eq, not_or, Nat.not_lt] at short
    calc piece
      _ < 16 ^ cs.length := Ipv4.lt_of_digits? read
      _ ≤ 16 ^ 4 := Nat.pow_le_pow_right (by decide) short.2

theorem lt_of_byte? {cs : List Char} {byte : Nat} (read : byte? cs = some byte) : byte < 256 := by
  simp only [byte?, Option.bind_eq_bind, Option.bind_none] at read
  split at read
  · cases read
  split at read
  · cases read
  obtain ⟨n, -, limited⟩ := Option.bind_eq_some_iff.mp read
  split at limited
  · cases limited
  · cases limited
    omega

theorem lt_of_embedded? {cs : List Char} {pieces : List Nat} (read : embedded? cs = some pieces) :
    ∀ piece ∈ pieces, piece < 65536 := by
  simp only [embedded?, Option.bind_eq_bind, Option.bind_eq_some_iff] at read
  obtain ⟨bytes, each, made⟩ := read
  have small : ∀ byte ∈ bytes, byte < 256 := by
    intro byte member
    obtain ⟨part, -, single⟩ := Text.exists_part_of_mapM each member
    exact lt_of_byte? single
  split at made
  · cases made
    simp only [List.forall_mem_cons] at small ⊢
    obtain ⟨a, b, c, d, -⟩ := small
    exact ⟨by omega, by omega, nofun⟩
  · cases made

theorem lt_of_pieces? {final : Bool} {groups : List (List Char)} {pieces : List Nat}
    (read : pieces? final groups = some pieces) : ∀ piece ∈ pieces, piece < 65536 := by
  induction groups generalizing pieces with
  | nil =>
    cases read
    nofun
  | cons group groups ih =>
    cases groups with
    | nil =>
      rw [pieces?] at read
      split at read
      · exact lt_of_embedded? read
      · obtain ⟨piece, single, rfl⟩ := Option.map_eq_some_iff.mp read
        simpa using lt_of_piece? single
    | cons next groups =>
      simp only [pieces?, Option.bind_eq_bind, Option.bind_eq_some_iff] at read
      obtain ⟨piece, single, rest, further, ⟨⟩⟩ := read
      exact List.forall_mem_cons.mpr ⟨lt_of_piece? single, ih further⟩

theorem lt_of_side? {final : Bool} {cs : List Char} {pieces : List Nat}
    (read : side? final cs = some pieces) : ∀ piece ∈ pieces, piece < 65536 := by
  unfold side? at read
  split at read
  · cases read
    nofun
  · exact lt_of_pieces? read

theorem isAddress_of_parse? {cs : List Char} {pieces : List Nat}
    (read : parse? cs = some pieces) : IsAddress pieces := by
  unfold parse? at read
  split at read
  · simp only [Option.bind_eq_bind, Option.bind_eq_some_iff] at read
    obtain ⟨before, left, after, right, made⟩ := read
    split at made
    · cases made
    · cases made
      refine ⟨?_, fun piece member => ?_⟩
      · simp only [List.length_append, List.length_replicate]
        omega
      · rcases List.mem_append.mp member with front | behind
        · rcases List.mem_append.mp front with first | zero
          · exact lt_of_side? left piece first
          · rw [List.eq_of_mem_replicate zero]
            decide
        · exact lt_of_side? right piece behind
  · simp only [Option.bind_eq_bind, Option.bind_eq_some_iff] at read
    obtain ⟨all, whole, made⟩ := read
    split at made
    · cases made
      exact ⟨by simpa using ‹(pieces.length == 8) = true›, lt_of_pieces? whole⟩
    · cases made

/-! ### What is written -/

/-- The longest run is a run of zeros in the place where it is said to be. -/
theorem exists_longestRun (index : Nat) (pieces : List Nat) :
    ∃ before after, pieces = before ++ (List.replicate (longestRun index pieces).2 0 ++ after) ∧
      ((longestRun index pieces).2 ≠ 0 →
        (longestRun index pieces).1 = index + before.length) := by
  induction pieces generalizing index with
  | nil => exact ⟨[], [], rfl, fun some => absurd rfl some⟩
  | cons piece pieces ih =>
    simp only [longestRun]
    split
    · refine ⟨[], (piece :: pieces).dropWhile (· == 0), ?_, fun _ => rfl⟩
      have run : (piece :: pieces).takeWhile (· == 0) =
          List.replicate (zeros (piece :: pieces)) 0 := by
        refine List.eq_replicate_iff.mpr ⟨rfl, fun other member => ?_⟩
        exact beq_iff_eq.mp (List.all_eq_true.mp List.all_takeWhile other member)
      rw [List.nil_append, ← run, List.takeWhile_append_dropWhile]
    · rename_i longer
      obtain ⟨before, after, same, place⟩ := ih (index + 1)
      refine ⟨piece :: before, after, congrArg (piece :: ·) same, fun some => ?_⟩
      rw [place some, List.length_cons]
      omega

theorem not_mem_hexDigits {c : Char} (other : ∀ d < 16, c ≠ d.digitChar) (n : Nat) :
    c ∉ Text.hexDigits n := by
  intro member
  obtain ⟨d, digit, same⟩ := exists_of_mem_toDigits (by decide) member
  exact other d digit same

theorem piece?_hexDigits {piece : Nat} (small : piece < 65536) :
    piece? (Text.hexDigits piece) = some piece := by
  have short : (Text.hexDigits piece).length ≤ 4 :=
    (Nat.length_toDigits_le_iff (by decide) (by decide)).mpr small
  rw [piece?, if_neg]
  · exact Ipv4.digits?_toDigits (by decide) (by decide) piece
  · simp only [Bool.or_eq_true, List.isEmpty_iff, decide_eq_true_eq, not_or, Nat.not_lt]
    exact ⟨Nat.toDigits_ne_nil, short⟩

theorem pieces?_hexDigits (final : Bool) {pieces : List Nat}
    (small : ∀ piece ∈ pieces, piece < 65536) :
    pieces? final (pieces.map Text.hexDigits) = some pieces := by
  induction pieces with
  | nil => rfl
  | cons piece pieces ih =>
    obtain ⟨here, later⟩ := List.forall_mem_cons.mp small
    cases pieces with
    | nil =>
      have undotted : '.' ∉ Text.hexDigits piece := not_mem_hexDigits (by decide) piece
      simp [pieces?, undotted, piece?_hexDigits here]
    | cons next pieces =>
      have rest := ih later
      rw [List.map_cons] at rest
      simp [pieces?, piece?_hexDigits here, rest]

theorem colon_not_mem_hexDigits (n : Nat) : ':' ∉ Text.hexDigits n :=
  not_mem_hexDigits (by decide) n

theorem split_renderPieces {pieces : List Nat} (filled : pieces ≠ []) :
    Text.split (· == ':') (renderPieces pieces) = pieces.map Text.hexDigits := by
  refine Text.split_join (by simpa using filled) fun part member => ?_
  obtain ⟨n, -, rfl⟩ := List.mem_map.mp member
  exact colon_not_mem_hexDigits n

theorem exists_renderPieces (piece : Nat) (pieces : List Nat) :
    ∃ c cs, renderPieces (piece :: pieces) = c :: cs ∧ c ≠ ':' := by
  obtain ⟨c, cs, digits⟩ := List.exists_cons_of_ne_nil (Nat.toDigits_ne_nil (b := 16) (n := piece))
  refine ⟨c, cs ++ (pieces.map Text.hexDigits).flatMap (':' :: ·), ?_, fun colon => ?_⟩
  · rw [renderPieces, List.map_cons, Text.join_cons, Text.hexDigits, digits, List.cons_append]
  · exact colon_not_mem_hexDigits piece (by rw [Text.hexDigits, digits, colon]; simp)

theorem side?_renderPieces (final : Bool) {pieces : List Nat}
    (small : ∀ piece ∈ pieces, piece < 65536) :
    side? final (renderPieces pieces) = some pieces := by
  cases pieces with
  | nil => rfl
  | cons piece pieces =>
    have cut := split_renderPieces (List.cons_ne_nil piece pieces)
    obtain ⟨c, cs, filled, -⟩ := exists_renderPieces piece pieces
    rw [side?, cut, filled, List.isEmpty_cons]
    exact pieces?_hexDigits final small

theorem cut?_append {front : List Char} (free : ':' ∉ front) (rest : List Char) :
    cut? (front ++ rest) = (cut? rest).map fun sides => (front ++ sides.1, sides.2) := by
  induction front with
  | nil => simp
  | cons c front ih =>
    obtain ⟨other, later⟩ := not_or.mp (mt List.mem_cons.mpr free)
    rw [List.cons_append, cut?, ih later]
    · cases cut? rest <;> rfl
    · intro more same
      exact absurd same.symm other

theorem cut?_colon {cs : List Char} (single : cs.head? ≠ some ':') :
    cut? (':' :: cs) = (cut? cs).map fun sides => (':' :: sides.1, sides.2) := by
  rw [cut?]
  rintro more - rfl
  exact single rfl

/-- Between pieces there are only single colons. -/
theorem cut?_renderPieces (pieces : List Nat) (rest : List Char) :
    cut? (renderPieces pieces ++ rest) =
      (cut? rest).map fun sides => (renderPieces pieces ++ sides.1, sides.2) := by
  induction pieces with
  | nil => simp [renderPieces, Text.join]
  | cons piece pieces ih =>
    cases pieces with
    | nil => exact cut?_append (colon_not_mem_hexDigits piece) rest
    | cons next pieces =>
      have written : renderPieces (piece :: next :: pieces) =
          Text.hexDigits piece ++ ':' :: renderPieces (next :: pieces) := by
        simp [renderPieces, Text.join]
      obtain ⟨c, cs, begins, other⟩ := exists_renderPieces next pieces
      have single : (renderPieces (next :: pieces) ++ rest).head? ≠ some ':' := by
        rw [begins]
        exact fun colon => other (Option.some.inj colon)
      rw [written, List.append_assoc, cut?_append (colon_not_mem_hexDigits piece),
        List.cons_append, cut?_colon single, ih]
      cases cut? rest <;> simp

/-- An address as it stands between brackets. -/
def body (pieces : List Nat) : List Char :=
  if (longestRun 0 pieces).2 < 2 then renderPieces pieces
  else renderPieces (pieces.take (longestRun 0 pieces).1) ++ [':', ':'] ++
    renderPieces (pieces.drop ((longestRun 0 pieces).1 + (longestRun 0 pieces).2))

theorem render_eq (pieces : List Nat) : render pieces = '[' :: (body pieces ++ [']']) := rfl

/-- An address is read as it is written. -/
theorem parse?_body {pieces : List Nat} (address : IsAddress pieces) :
    parse? (body pieces) = some pieces := by
  obtain ⟨eight, small⟩ := address
  unfold body
  split
  · have filled : pieces ≠ [] := by
      rintro rfl
      cases eight
    have whole := cut?_renderPieces pieces []
    rw [List.append_nil] at whole
    simp [parse?, whole, cut?, split_renderPieces filled, pieces?_hexDigits true small, eight]
  · rename_i long
    obtain ⟨before, after, same, place⟩ := exists_longestRun 0 pieces
    generalize longestRun 0 pieces = run at long same place
    obtain ⟨start, length⟩ := run
    dsimp only at long same place ⊢
    rw [Nat.not_lt] at long
    rw [Nat.zero_add] at place
    have front : pieces.take start = before := by
      rw [place (by omega), same, List.take_left]
    have back : pieces.drop (start + length) = after := by
      rw [place (by omega), same, ← List.drop_drop, List.drop_left]
      simp
    have count : before.length + (length + after.length) = 8 := by
      rw [← eight, same]
      simp
    have cut : cut? (renderPieces before ++ [':', ':'] ++ renderPieces after) =
        some (renderPieces before, renderPieces after) := by
      rw [List.append_assoc, cut?_renderPieces]
      simp [cut?]
    have left : ∀ piece ∈ before, piece < 65536 := fun piece member =>
      small piece (same ▸ List.mem_append_left _ member)
    have right : ∀ piece ∈ after, piece < 65536 := fun piece member =>
      small piece (same ▸ List.mem_append_right _ (List.mem_append_right _ member))
    have gap : 8 - (before.length + after.length) = length := by omega
    rw [front, back, parse?, cut]
    simp only [side?_renderPieces _ left, side?_renderPieces _ right, Option.bind_eq_bind,
      Option.bind_some]
    rw [if_neg (by omega), gap, List.append_assoc, ← same]

theorem mem_body {pieces : List Nat} {c : Char} (member : c ∈ body pieces) :
    c = ':' ∨ ∃ d < 16, c = d.digitChar := by
  have written {pieces : List Nat} (inside : c ∈ renderPieces pieces) :
      c = ':' ∨ ∃ d < 16, c = d.digitChar := by
    rcases Text.mem_join_of inside with colon | ⟨part, present, digit⟩
    · exact .inl (List.mem_singleton.mp colon)
    · obtain ⟨n, -, rfl⟩ := List.mem_map.mp present
      exact .inr (exists_of_mem_toDigits (by decide) digit)
  unfold body at member
  split at member
  · exact written member
  · rcases List.mem_append.mp member with front | behind
    · rcases List.mem_append.mp front with first | colon
      · exact written first
      · simp only [List.mem_cons, List.not_mem_nil, or_false, or_self] at colon
        exact .inl colon
    · exact written behind

end Ipv6

end Scratchpad.Url
