import AddonConfig.Json.Pointer
import AddonConfig.Proofs.SortedMembers
import Mathlib.Data.List.Basic

/-!
# Places and their texts

`Json.node?` follows a place step by step, and `Json.resolve?` reads a pointer text as RFC 6901 says: a token
after every slash, `~1` in it a slash and then `~0` a tilde. The text of a place leads to the node there
(`resolve?_text`), and no other place of the value has that text (`text_inj`), though an index and a member
name may be written alike.
-/

namespace AddonConfig

namespace Json

/-- What a value holds at a step. -/
def child? : Json → Step → Option Json
  | .arr items, .item index => items[index]?
  | .obj members, .member name => Members.get? members name
  | _, _ => none

/-- The node of a value at a place. -/
def node? (value : Json) (place : Pointer) : Option Json := place.foldlM child? value

end Json

namespace Pointer

/-- Puts a character where a tilde and a digit stand for it. -/
def unescapeAs (digit c : Char) : List Char → List Char
  | '~' :: d :: rest => if d = digit then c :: unescapeAs digit c rest else '~' :: unescapeAs digit c (d :: rest)
  | d :: rest => d :: unescapeAs digit c rest
  | [] => []

/-- The name that a token writes. -/
def unescape (token : List Char) : List Char := unescapeAs '0' '~' (unescapeAs '1' '/' token)

/-- The index that a token writes: digits, and no zero before others. -/
def index? (token : List Char) : Option Nat :=
  if token ≠ [] ∧ token.all Char.isDigit ∧ (token.head? = some '0' → token = ['0']) then
    some (Nat.ofDigitChars 10 token 0)
  else none

end Pointer

namespace Json

/-- What a token leads to. -/
def enter? (value : Json) (token : List Char) : Option Json :=
  match value with
  | .arr items => (Pointer.index? (Pointer.unescape token)).bind (items[·]?)
  | .obj members => Members.get? members (String.ofList (Pointer.unescape token))
  | _ => none

/-- What a pointer text leads to: empty, or a slash before every token. -/
def resolve? (value : Json) (pointer : String) : Option Json :=
  match pointer.toList.splitOn '/' with
  | [] :: tokens => tokens.foldlM enter? value
  | _ => none

end Json

/-! ### Tokens -/

namespace Pointer

theorem unescapeAs_slash (name : List Char) :
    unescapeAs '1' '/' (name.flatMap Step.escapeChar)
      = name.flatMap fun c => if c = '~' then ['~', '0'] else [c] := by
  induction name with
  | nil => rfl
  | cons c name ih =>
    rw [List.flatMap_cons, List.flatMap_cons, ← ih]
    by_cases htilde : c = '~'
    · subst htilde
      rfl
    by_cases hslash : c = '/'
    · subst hslash
      rfl
    · simp [Step.escapeChar, htilde, hslash, unescapeAs]

theorem unescapeAs_tilde (name : List Char) :
    unescapeAs '0' '~' (name.flatMap fun c => if c = '~' then ['~', '0'] else [c]) = name := by
  induction name with
  | nil => rfl
  | cons c name ih =>
    rw [List.flatMap_cons]
    by_cases htilde : c = '~'
    · subst htilde
      exact congrArg (List.cons '~') ih
    · simp [htilde, unescapeAs, ih]

/-- A name is read back from its token. -/
theorem unescape_member (name : String) : unescape (Step.member name).token = name.toList := by
  rw [unescape, Step.token, unescapeAs_slash, unescapeAs_tilde]

theorem unescapeAs_of_no_tilde {digit c : Char} {token : List Char} (h : '~' ∉ token) :
    unescapeAs digit c token = token := by
  induction token with
  | nil => rfl
  | cons d token ih =>
    have hd : d ≠ '~' := fun heq => h (heq ▸ List.mem_cons_self)
    have hstep : unescapeAs digit c (d :: token) = d :: unescapeAs digit c token := by
      cases token <;> simp [unescapeAs, hd]
    rw [hstep, ih fun hmem => h (List.mem_cons_of_mem d hmem)]

theorem isDigit_token {index : Nat} {c : Char} (h : c ∈ (Step.item index).token) : c.isDigit = true :=
  Nat.isDigit_of_mem_toDigits (by omega) (by omega) h

theorem head?_toDigits {n : Nat} (h : 0 < n) : (Nat.toDigits 10 n).head? ≠ some '0' := by
  have hdigit : ∀ n < 10, 0 < n → [Nat.digitChar n].head? ≠ some '0' := by decide
  induction n using Nat.strongRecOn with
  | ind n ih =>
    rw [Nat.toDigits_eq_if (by omega)]
    split
    · exact hdigit n (by assumption) h
    · rw [List.head?_append_of_ne_nil _ Nat.toDigits_ne_nil]
      exact ih (n / 10) (by omega) (by omega)

/-- An index is read back from its token. -/
theorem index?_item (index : Nat) : index? (unescape (Step.item index).token) = some index := by
  have htilde : '~' ∉ (Step.item index).token := fun h => absurd (isDigit_token h) (by decide)
  have hleading : (Step.item index).token.head? = some '0' → (Step.item index).token = ['0'] := by
    intro hzero
    rcases Nat.eq_zero_or_pos index with rfl | hpos
    · rfl
    · exact absurd hzero (head?_toDigits hpos)
  rw [unescape, unescapeAs_of_no_tilde htilde, unescapeAs_of_no_tilde htilde, index?,
    if_pos ⟨Nat.toDigits_ne_nil, by simpa using fun c hc => isDigit_token hc, hleading⟩]
  exact congrArg some (Nat.ofDigitChars_toDigits (by omega) (by omega))

theorem slash_notMem_token (step : Step) : '/' ∉ step.token := by
  cases step with
  | item index => exact fun h => absurd (isDigit_token h) (by decide)
  | member name =>
    intro h
    obtain ⟨c, -, hc⟩ := List.mem_flatMap.1 h
    unfold Step.escapeChar at hc
    split_ifs at hc with htilde hslash
    · simp at hc
    · simp at hc
    · exact hslash (List.mem_singleton.1 hc).symm

theorem splitOn_chars (place : Pointer) : place.chars.splitOn '/' = [] :: place.map Step.token := by
  -- a token goes on up to the next slash
  have htokens : ∀ (step : Step) (rest : Pointer),
      (step.token ++ Pointer.chars rest).splitOn '/' = step.token :: rest.map Step.token := by
    intro step rest
    induction rest generalizing step with
    | nil =>
      rw [show Pointer.chars [] = [] from rfl, List.append_nil]
      exact List.splitOn_eq_singleton (slash_notMem_token step)
    | cons next rest ih =>
      rw [show Pointer.chars (next :: rest) = '/' :: (next.token ++ Pointer.chars rest) from rfl,
        List.splitOn_append_cons_self_of_not_mem (slash_notMem_token step), ih, List.map_cons]
  cases place with
  | nil => exact List.splitOn_nil _
  | cons step rest =>
    rw [show Pointer.chars (step :: rest) = [] ++ '/' :: (step.token ++ Pointer.chars rest) from rfl,
      List.splitOn_append_cons_self_of_not_mem (by simp), htokens, List.map_cons]

end Pointer

/-! ### Nodes -/

namespace Json
variable {value inner node : Json} {step other : Step} {place front rest : Pointer}

theorem child?_eq_some (h : value.child? step = some inner) :
    (∃ items index, value = .arr items ∧ step = .item index ∧ items[index]? = some inner) ∨
      ∃ members name, value = .obj members ∧ step = .member name ∧ Members.get? members name = some inner := by
  unfold child? at h
  split at h
  · exact .inl ⟨_, _, rfl, rfl, h⟩
  · exact .inr ⟨_, _, rfl, rfl, h⟩
  · cases h

@[simp] theorem node?_nil (value : Json) : value.node? [] = some value := rfl

theorem node?_cons (value : Json) (step : Step) (rest : Pointer) :
    value.node? (step :: rest) = (value.child? step).bind (·.node? rest) := rfl

/-- The token of a step leads where the step does. -/
theorem enter?_token (h : value.child? step = some inner) : value.enter? step.token = some inner := by
  obtain ⟨items, index, rfl, rfl, hget⟩ | ⟨members, name, rfl, rfl, hget⟩ := child?_eq_some h
  · rw [enter?, Pointer.index?_item]
    exact hget
  · rw [enter?, Pointer.unescape_member, String.ofList_toList]
    exact hget

/-- The text of a place leads to the node there. -/
theorem resolve?_text (h : value.node? place = some node) : value.resolve? place.text = some node := by
  rw [resolve?, Pointer.text, String.toList_ofList, Pointer.splitOn_chars]
  show (place.map Step.token).foldlM enter? value = some node
  induction place generalizing value with
  | nil => exact h
  | cons step rest ih =>
    obtain ⟨inner, hinner, hrest⟩ := Option.bind_eq_some_iff.1 h
    rw [List.map_cons, List.foldlM_cons, enter?_token hinner]
    exact ih hrest

theorem step_inj (h : (value.child? step).isSome) (h' : (value.child? other).isSome)
    (htoken : step.token = other.token) : step = other := by
  obtain ⟨inner, h⟩ := Option.isSome_iff_exists.1 h
  obtain ⟨inner', h'⟩ := Option.isSome_iff_exists.1 h'
  obtain ⟨items, index, rfl, rfl, -⟩ | ⟨members, name, rfl, rfl, -⟩ := child?_eq_some h
  · obtain ⟨_, index', -, rfl, -⟩ | ⟨_, _, heq, -⟩ := child?_eq_some h'
    · have hindex := Pointer.index?_item index
      rw [htoken, Pointer.index?_item] at hindex
      rw [Option.some.inj hindex]
    · cases heq
  · obtain ⟨_, _, heq, -⟩ | ⟨_, name', -, rfl, -⟩ := child?_eq_some h'
    · cases heq
    · have hname := Pointer.unescape_member name
      rw [htoken, Pointer.unescape_member] at hname
      rw [String.toList_inj.1 hname]

/-- Two places of one value have different texts. -/
theorem text_inj {place other : Pointer} (h : (value.node? place).isSome) (h' : (value.node? other).isSome)
    (htext : place.text = other.text) : place = other := by
  have htokens : place.map Step.token = other.map Step.token := by
    have hsplit := congrArg (·.toList.splitOn '/') htext
    simpa only [Pointer.text, String.toList_ofList, Pointer.splitOn_chars, List.cons.injEq, true_and] using hsplit
  clear htext
  induction place generalizing value other with
  | nil => exact (List.map_eq_nil_iff.1 htokens.symm).symm
  | cons step rest ih =>
    cases other with
    | nil => cases htokens
    | cons step' rest' =>
      obtain ⟨hstep, hrest⟩ := List.cons.inj htokens
      rw [node?_cons] at h h'
      have hchild := Option.isSome_of_isSome_bind h
      obtain rfl := step_inj hchild (Option.isSome_of_isSome_bind h') hstep
      obtain ⟨inner, hinner⟩ := Option.isSome_iff_exists.1 hchild
      rw [hinner] at h h'
      rw [ih h h' hrest]

end Json

end AddonConfig
