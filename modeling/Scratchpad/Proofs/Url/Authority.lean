import Scratchpad.Proofs.Json.Compact
import Scratchpad.Proofs.Url.Route

/-!
# Authorities are read back

The user name and password of an authority that was read are settled, and its port is not the one
that goes without saying. Such an authority is cut where it was put together, so that it is read
as it is written if only its host is. What is asked of the text of a host is that it ends where
the next part begins.
-/

set_option autoImplicit false

namespace Scratchpad.Url

/-! ## What is read -/

/-- User name, password and port in the form in which they are read. -/
structure Authority.IsSettled (scheme : List Char) (authority : Authority) : Prop where
  username : Settled userinfoSet authority.username
  password : ∀ text, authority.password = some text → text ≠ [] ∧ Settled userinfoSet text
  port : ∀ n, authority.port = some n → n ≤ 65535 ∧ some n ≠ defaultPorts.lookup scheme

theorem of_user {cs username : List Char} {password : Option (List Char)}
    (read : user cs = (username, password)) : Settled userinfoSet username ∧
      ∀ text, password = some text → text ≠ [] ∧ Settled userinfoSet text := by
  have settled (text : List Char) : Settled userinfoSet (percentEncode userinfoSet text) :=
    settled_percentEncode isEncodeSet_userinfo text
  unfold user at read
  split at read
  · cases read
    refine ⟨settled _, fun text given => ?_⟩
    rw [← Option.some.inj given]
    exact ⟨percentEncode_ne_nil (List.cons_ne_nil _ _), settled _⟩
  · cases read
    exact ⟨settled _, nofun⟩

theorem of_port {default number : Option Nat} {cs rest : List Char}
    (read : port default cs = .ok (number, rest)) :
    ∀ n, number = some n → n ≤ 65535 ∧ some n ≠ default := by
  have given {digits : List Char} {value n : Nat} (small : ¬ 65535 < value)
      (same : (if digits.isEmpty || some value == default then none else some value) = some n) :
      n ≤ 65535 ∧ some n ≠ default := by
    split at same
    · cases same
    · rename_i other
      cases same
      simp only [Bool.or_eq_true, beq_iff_eq, not_or] at other
      exact ⟨Nat.le_of_not_lt small, other.2⟩
  intro n same
  unfold port at read
  dsimp only at read
  split at read
  · split at read
    · cases read
    · rename_i allowed
      cases read
      simp only [Bool.or_eq_true, decide_eq_true_eq, not_or] at allowed
      exact given allowed.1 same
  · split at read
    · cases read
    · rename_i allowed
      cases read
      exact given allowed same

/-- The port behind a host, if there is one. -/
def portAfter (scheme : List Char) : List Char → Except Error (Option Nat × List Char)
  | ':' :: rest => port (defaultPorts.lookup scheme) rest
  | rest => .ok (none, rest)

theorem portAfter_of_ne {scheme rest : List Char} (none : ∀ more, rest = ':' :: more → False) :
    portAfter scheme rest = .ok (.none, rest) := by
  unfold portAfter
  split
  · exact absurd rfl (none _)
  · rfl

theorem of_portAfter {scheme cs rest : List Char} {number : Option Nat}
    (read : portAfter scheme cs = .ok (number, rest)) :
    ∀ n, number = some n → n ≤ 65535 ∧ some n ≠ defaultPorts.lookup scheme := by
  unfold portAfter at read
  split at read
  · exact of_port read
  · cases read
    exact nofun

section Special

variable {scheme : List Char} (special : kind scheme = .special)
include special

theorem hostAndPort_special (hasUser : Bool) {cs text rest : List Char}
    (cut : splitHost .special false cs = (text, rest)) :
    hostAndPort scheme hasUser cs =
      if text = [] then .error .emptyHost
      else (Host.parse text).bind fun host =>
        (portAfter scheme rest).map fun found => (host, found.1, found.2) := by
  rw [hostAndPort, special, cut]
  cases text with
  | nil => rfl
  | cons c text =>
    dsimp only
    rw [if_neg (List.cons_ne_nil c text)]
    cases Host.parse (c :: text) with
    | error error => rfl
    | ok host =>
      dsimp only [bind, Except.bind]
      split
      · rename_i after
        rw [portAfter]
        cases port (defaultPorts.lookup scheme) after <;> rfl
      · rename_i none
        rw [portAfter_of_ne none]
        rfl

theorem of_hostAndPort {hasUser : Bool} {cs rest : List Char} {host : Host} {number : Option Nat}
    (read : hostAndPort scheme hasUser cs = .ok (host, number, rest)) :
    (∃ text, Host.parse text = .ok host) ∧
      ∀ n, number = some n → n ≤ 65535 ∧ some n ≠ defaultPorts.lookup scheme := by
  rw [hostAndPort_special special hasUser rfl] at read
  split at read
  · cases read
  cases parsed : Host.parse (splitHost .special false cs).1 with
  | error error => simp [parsed, Except.bind] at read
  | ok own =>
    cases ported : portAfter scheme (splitHost .special false cs).2 with
    | error error => simp [parsed, ported, Except.bind, Except.map] at read
    | ok found =>
      simp only [parsed, ported, Except.bind, Except.map, Except.ok.injEq, Prod.mk.injEq] at read
      obtain ⟨rfl, rfl, rfl⟩ := read
      exact ⟨⟨_, parsed⟩, of_portAfter ported⟩

theorem of_readAuthority {cs rest : List Char} {authority : Authority}
    (read : readAuthority scheme cs = .ok (authority, rest)) :
    (∃ text, Host.parse text = .ok authority.host) ∧ authority.IsSettled scheme := by
  have unnamed : Settled userinfoSet [] := fun c none => nomatch none
  unfold readAuthority at read
  split at read
  · cases found : hostAndPort scheme false cs with
    | error error => simp [found, bind, Except.bind] at read
    | ok front =>
      simp only [found, bind, Except.bind] at read
      cases read
      obtain ⟨parsed, ported⟩ := of_hostAndPort special found
      exact ⟨parsed, unnamed, nofun, ported⟩
  · rename_i after _
    split at read
    · cases read
    cases found : hostAndPort scheme false after with
    | error error => simp [found, bind, Except.bind] at read
    | ok front =>
      simp only [found, bind, Except.bind] at read
      cases read
      obtain ⟨parsed, ported⟩ := of_hostAndPort special found
      exact ⟨parsed, unnamed, nofun, ported⟩
  · rename_i text after _ _
    cases named : user text with
    | mk username password =>
      cases found : hostAndPort scheme (!username.isEmpty || password.isSome) after with
      | error error => simp [named, found, bind, Except.bind] at read
      | ok front =>
        simp only [named, found, bind, Except.bind] at read
        cases read
        obtain ⟨parsed, ported⟩ := of_hostAndPort special found
        obtain ⟨settled, guarded⟩ := of_user named
        exact ⟨parsed, settled, guarded, ported⟩

end Special

/-! ## What is written -/

/-- A text that is cut off as a host before every part that may follow. -/
structure IsHostText (text : List Char) : Prop where
  filled : text ≠ []
  unended : ∀ c ∈ text, endsAuthority .special c = false
  unsigned : '@' ∉ text
  cut : ∀ c rest, c = ':' ∨ endsAuthority .special c = true →
    splitHost .special false (text ++ c :: rest) = (text, c :: rest)

theorem endsAuthority_iff {c : Char} :
    endsAuthority .special c = true ↔ c = '/' ∨ c = '\\' ∨ c = '?' ∨ c = '#' := by
  simp [endsAuthority, isSlash, or_assoc]

theorem of_isDigit {c : Char} (digit : Json.isDigit c = true) :
    endsAuthority .special c = false ∧ c ≠ '@' := by
  refine ⟨Bool.eq_false_iff.mpr fun ends => ?_, fun sign => ?_⟩
  · rcases endsAuthority_iff.mp ends with same | same | same | same <;> rw [same] at digit <;>
      cases digit
  · rw [sign] at digit
    cases digit

theorem of_settled_user {cs : List Char} (settled : Settled userinfoSet cs) :
    ∀ c ∈ cs, endsAuthority .special c = false ∧ c ≠ '@' ∧ c ≠ ':' := by
  intro c member
  have kept := (settled c member).1
  refine ⟨Bool.eq_false_iff.mpr fun ends => ?_, fun sign => ?_, fun colon => ?_⟩
  · rcases endsAuthority_iff.mp ends with same | same | same | same <;> rw [same] at kept <;>
      cases kept
  · rw [sign] at kept
    cases kept
  · rw [colon] at kept
    cases kept

theorem port_digits {default : Option Nat} {n : Nat} (small : n ≤ 65535) (other : some n ≠ default)
    (rest : List Char) :
    port default (Nat.toDigits 10 n ++ '/' :: rest) = .ok (some n, '/' :: rest) := by
  obtain ⟨filled, digits⟩ := Json.areDigits_toDigits n
  have slash : Json.isDigit '/' = false := by decide
  obtain ⟨front, back⟩ := Text.span_append_mark digits slash rest
  have value : (Nat.toDigits 10 n).foldl (fun n c => n * 10 + Json.digitValue c) 0 = n := by
    have same := Nat.ofDigitChars_ten_toDigits (n := n)
    rw [Nat.ofDigitChars_eq_foldl] at same
    simpa only [Json.digitValue, Nat.mul_comm] using same
  simp only [port, front, back, value]
  rw [if_neg (by simpa using small), if_neg (by simp [filled, other])]

theorem portAfter_renderPort {scheme : List Char} {authority : Authority}
    (settled : authority.IsSettled scheme) (rest : List Char) :
    portAfter scheme (authority.renderPort ++ '/' :: rest) = .ok (authority.port, '/' :: rest) := by
  unfold Authority.renderPort
  cases given : authority.port with
  | none => exact portAfter_of_ne nofun
  | some n =>
    obtain ⟨small, other⟩ := settled.port n given
    exact port_digits small other rest

theorem exists_renderPort (authority : Authority) (rest : List Char) :
    ∃ c more, authority.renderPort ++ '/' :: rest = c :: more ∧
      (c = ':' ∨ endsAuthority .special c = true) := by
  unfold Authority.renderPort
  cases authority.port with
  | none => exact ⟨_, _, rfl, .inr rfl⟩
  | some n => exact ⟨_, _, rfl, .inl rfl⟩

theorem hostAndPort_render {scheme : List Char} (special : kind scheme = .special)
    {authority : Authority} (settled : authority.IsSettled scheme) {text : List Char}
    (host : IsHostText text) (hasUser : Bool) (rest : List Char) :
    hostAndPort scheme hasUser (text ++ (authority.renderPort ++ '/' :: rest)) =
      (Host.parse text).map fun host => (host, authority.port, '/' :: rest) := by
  obtain ⟨c, more, begins, marked⟩ := exists_renderPort authority rest
  have cut : splitHost .special false (text ++ (authority.renderPort ++ '/' :: rest)) =
      (text, authority.renderPort ++ '/' :: rest) := by
    rw [begins]
    exact host.cut c more marked
  rw [hostAndPort_special special hasUser cut, if_neg host.filled,
    portAfter_renderPort settled rest]
  cases Host.parse text <;> rfl

section Cutting

variable {front : List Char} (unended : ∀ c ∈ front, endsAuthority .special c = false)
include unended

theorem span_authority (rest : List Char) :
    (front ++ '/' :: rest).takeWhile (!endsAuthority .special ·) = front ∧
      (front ++ '/' :: rest).dropWhile (!endsAuthority .special ·) = '/' :: rest := by
  refine @Text.span_append_mark _ _ _ (fun c member => ?_) _ rfl rest
  rw [unended c member]
  rfl

theorem splitUser_unsigned (unsigned : '@' ∉ front) (rest : List Char) :
    splitUser .special (front ++ '/' :: rest) = none := by
  obtain ⟨authority, -⟩ := span_authority unended rest
  simp only [splitUser, authority, Text.afterLast_of_not_mem unsigned, Nat.lt_irrefl, ↓reduceIte]

theorem splitUser_signed (unsigned : '@' ∉ front) {named : List Char}
    (closed : ∀ c ∈ named, endsAuthority .special c = false) (rest : List Char) :
    splitUser .special (named ++ '@' :: (front ++ '/' :: rest)) =
      some (named, front ++ '/' :: rest) := by
  have all : ∀ c ∈ named ++ '@' :: front, endsAuthority .special c = false := by
    intro c member
    rcases List.mem_append.mp member with before | after
    · exact closed c before
    · rcases List.mem_cons.mp after with rfl | behind
      · rfl
      · exact unended c behind
  obtain ⟨authority, after⟩ := span_authority all rest
  rw [List.append_assoc, List.cons_append] at authority after
  have shorter : front.length < (named ++ '@' :: front).length := by
    simp only [List.length_append, List.length_cons]
    omega
  simp only [splitUser, authority, after, Text.afterLast_append unsigned, shorter, ↓reduceIte,
    Text.take_before_mark]

end Cutting

theorem user_unguarded {username : List Char} (settled : Settled userinfoSet username) :
    user username = (username, none) := by
  have single : ∀ c ∈ username, (c != ':') = true :=
    fun c member => bne_iff_ne.mpr (of_settled_user settled c member).2.2
  rw [user, List.takeWhile_eq_self_iff.mpr single, List.dropWhile_eq_nil_iff.mpr single,
    percentEncode_of_settled settled]

theorem user_guarded {username password : List Char} (settled : Settled userinfoSet username)
    (filled : password ≠ []) (guarded : Settled userinfoSet password) :
    user (username ++ ':' :: password) = (username, some password) := by
  have single : ∀ c ∈ username, (c != ':') = true :=
    fun c member => bne_iff_ne.mpr (of_settled_user settled c member).2.2
  obtain ⟨c, password, rfl⟩ := List.exists_cons_of_ne_nil filled
  obtain ⟨front, back⟩ := Text.span_append_mark single (bne_self_eq_false ':') (c :: password)
  rw [user, front, back]
  dsimp only
  rw [percentEncode_of_settled settled, percentEncode_of_settled guarded]

/-- An authority is written with nothing before its host, or with a text before a sign that is read
as its user name and password. -/
theorem renderUser_cases {scheme : List Char} {authority : Authority}
    (settled : authority.IsSettled scheme) :
    (authority.renderUser = [] ∧ authority.username = [] ∧ authority.password = none) ∨
      ∃ named, authority.renderUser = named ++ ['@'] ∧ named ≠ [] ∧
        (∀ c ∈ named, endsAuthority .special c = false) ∧
        user named = (authority.username, authority.password) := by
  unfold Authority.renderUser
  cases given : authority.password with
  | none =>
    by_cases empty : authority.username = []
    · exact .inl ⟨by simp [empty], empty, rfl⟩
    · refine .inr ⟨authority.username, by simp [empty], empty, ?_,
        user_unguarded settled.username⟩
      exact fun c member => (of_settled_user settled.username c member).1
  | some password =>
    obtain ⟨filled, guarded⟩ := settled.password password given
    refine .inr ⟨authority.username ++ ':' :: password, rfl, by simp, ?_,
      user_guarded settled.username filled guarded⟩
    intro c member
    rcases List.mem_append.mp member with before | after
    · exact (of_settled_user settled.username c before).1
    · rcases List.mem_cons.mp after with rfl | behind
      · rfl
      · exact (of_settled_user guarded c behind).1

theorem readAuthority_unsigned {scheme cs : List Char} (cut : splitUser (kind scheme) cs = none) :
    readAuthority scheme cs = (hostAndPort scheme false cs).map fun found =>
      ({ host := found.1, port := found.2.1 }, found.2.2) := by
  rw [readAuthority, cut]
  cases hostAndPort scheme false cs <;> rfl

theorem readAuthority_signed {scheme cs named rest : List Char} (filled : named ≠ [])
    (cut : splitUser (kind scheme) cs = some (named, rest)) :
    readAuthority scheme cs =
      (hostAndPort scheme (!(user named).1.isEmpty || (user named).2.isSome) rest).map fun found =>
        ({ username := (user named).1, password := (user named).2, host := found.1,
           port := found.2.1 }, found.2.2) := by
  obtain ⟨c, named, rfl⟩ := List.exists_cons_of_ne_nil filled
  rw [readAuthority, cut]
  dsimp only
  cases hostAndPort scheme (!(user (c :: named)).1.isEmpty || (user (c :: named)).2.isSome) rest <;>
    rfl

/-- An authority is read as it is written, with the host that is read from its text. -/
theorem readAuthority_render {scheme : List Char} (special : kind scheme = .special)
    {authority : Authority} (settled : authority.IsSettled scheme) {text : List Char}
    (host : IsHostText text) (rest : List Char) :
    readAuthority scheme
        (authority.renderUser ++ (text ++ (authority.renderPort ++ '/' :: rest))) =
      (Host.parse text).map fun host => ({ authority with host }, '/' :: rest) := by
  have ported : ∀ c ∈ authority.renderPort, endsAuthority .special c = false ∧ c ≠ '@' := by
    intro c member
    unfold Authority.renderPort at member
    split at member
    · rename_i n _
      rcases List.mem_cons.mp member with rfl | digit
      · exact ⟨rfl, by decide⟩
      · exact of_isDigit ((Json.areDigits_toDigits n).2 c digit)
    · cases member
  have unended : ∀ c ∈ text ++ authority.renderPort, endsAuthority .special c = false := by
    intro c member
    rcases List.mem_append.mp member with inside | behind
    · exact host.unended c inside
    · exact (ported c behind).1
  have unsigned : '@' ∉ text ++ authority.renderPort := by
    intro member
    rcases List.mem_append.mp member with inside | behind
    · exact host.unsigned inside
    · exact (ported '@' behind).2 rfl
  have reads (hasUser : Bool) := hostAndPort_render special settled host hasUser rest
  rw [← List.append_assoc text] at reads ⊢
  rcases renderUser_cases settled with ⟨unwritten, unnamed, unguarded⟩ |
      ⟨named, written, filled, closed, names⟩
  · have cut := splitUser_unsigned unended unsigned rest
    rw [unwritten, List.nil_append, readAuthority_unsigned (special ▸ cut), reads, unnamed,
      unguarded]
    cases Host.parse text <;> rfl
  · have cut := splitUser_signed unended unsigned closed rest
    rw [written, List.append_assoc named, List.singleton_append,
      readAuthority_signed filled (special ▸ cut), reads, names]
    cases Host.parse text <;> rfl

end Scratchpad.Url
