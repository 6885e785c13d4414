import AddonConfig.Proofs.FlowScalars
import AddonConfig.Yaml.Token

/-!
# Tokens of JSON text

Every lexeme of JSON has one token of YAML, and the name of a member has a token for its key before it unless
it was given up as too long. `Legal` says where the lexemes of a value may stand, as far as YAML needs it.
-/

namespace AddonConfig.Yaml
open Json (Bracket Lexeme Phrase Spells)

/-! ### Where lexemes stand -/

/-- Where a lexeme stands. -/
inductive Turn where
  /-- At the start of an item, a member or the text. -/
  | fresh
  /-- After a string at such a start, which a colon may make a name. -/
  | named
  | other
  deriving DecidableEq

/-- A string may be a name only at the start of a member. -/
def Turn.afterString : Turn → Turn
  | .fresh => .named
  | _ => .other

/-- Lexemes that are balanced. The levels are the collections that are open and the text around them. -/
inductive Legal : Nat → Turn → List Lexeme → Prop
  | done {turn : Turn} : Legal 1 turn []
  | opening {levels : Nat} {turn : Turn} {bracket : Bracket} {rest : List Lexeme}
      (h : Legal (levels + 1) .fresh rest) : Legal levels turn (.opening bracket :: rest)
  | closing {levels : Nat} {turn : Turn} {bracket : Bracket} {rest : List Lexeme} (hlevels : 0 < levels)
      (h : Legal levels .other rest) : Legal (levels + 1) turn (.closing bracket :: rest)
  | comma {levels : Nat} {turn : Turn} {rest : List Lexeme} (hlevels : 1 < levels)
      (h : Legal levels .fresh rest) : Legal levels turn (.comma :: rest)
  | colon {levels : Nat} {rest : List Lexeme} (hlevels : 1 < levels) (h : Legal levels .other rest) :
      Legal levels .named (.colon :: rest)
  | word {levels : Nat} {turn : Turn} {chars : List Char} {rest : List Lexeme} (hends : EndsWord (1 < levels) rest)
      (h : Legal levels .other rest) : Legal levels turn (.word chars :: rest)
  | quoted {levels : Nat} {turn : Turn} {text : String} {rest : List Lexeme}
      (h : Legal levels turn.afterString rest) : Legal levels turn (.quoted text :: rest)

namespace Legal
variable {levels : Nat} {turn : Turn} {bracket : Bracket} {chars : List Char} {text : String} {rest : List Lexeme}

theorem of_nil (h : Legal levels turn []) : levels = 1 := by
  cases h
  rfl

theorem of_opening (h : Legal levels turn (.opening bracket :: rest)) : Legal (levels + 1) .fresh rest := by
  cases h
  assumption

theorem of_closing (h : Legal levels turn (.closing bracket :: rest)) :
    1 < levels ∧ Legal (levels - 1) .other rest := by
  cases h with
  | closing hlevels h => exact ⟨Nat.succ_lt_succ hlevels, h⟩

theorem of_comma (h : Legal levels turn (.comma :: rest)) : 1 < levels ∧ Legal levels .fresh rest := by
  cases h with
  | comma hlevels h => exact ⟨hlevels, h⟩

theorem of_colon (h : Legal levels turn (.colon :: rest)) :
    1 < levels ∧ turn = .named ∧ Legal levels .other rest := by
  cases h with
  | colon hlevels h => exact ⟨hlevels, rfl, h⟩

theorem of_word (h : Legal levels turn (.word chars :: rest)) :
    EndsWord (1 < levels) rest ∧ Legal levels .other rest := by
  cases h with
  | word hends h => exact ⟨hends, h⟩

theorem of_quoted (h : Legal levels turn (.quoted text :: rest)) : Legal levels turn.afterString rest := by
  cases h
  assumption

end Legal

/-- The lexemes of a value may stand wherever a value may, and what is left of a collection after its
bracket. -/
def Fits : Phrase → List Lexeme → Prop
  | .value _, lexemes =>
      ∀ levels turn rest, 0 < levels → (∀ turn, Legal levels turn rest) → EndsWord (1 < levels) rest →
        Legal levels turn (lexemes ++ rest)
  | _, lexemes =>
      ∀ levels rest, 0 < levels → Legal levels .other rest → Legal (levels + 1) .fresh (lexemes ++ rest)

theorem fits_of_spells {phrase : Phrase} {lexemes : List Lexeme} (h : Spells phrase lexemes) : Fits phrase lexemes := by
  induction h with
  | word => exact fun levels turn rest _ hrest hends => .word hends (hrest _)
  | quoted => exact fun levels turn rest _ hrest _ => .quoted (hrest _)
  | emptyArray => exact fun levels turn rest hlevels hrest _ => .opening (.closing hlevels (hrest _))
  | array _ ih => exact fun levels turn rest hlevels hrest _ => .opening (ih levels rest hlevels (hrest _))
  | @lastItem item lexemes _ ih =>
    intro levels rest hlevels hrest
    rw [List.append_assoc]
    exact ih _ _ _ (Nat.succ_pos _) (fun _ => .closing hlevels hrest) (by simpa [EndsWord] using hlevels)
  | @item item items first lexemes _ _ ihFirst ih =>
    intro levels rest hlevels hrest
    rw [List.append_assoc]
    have hothers := ih levels rest hlevels hrest
    have hin : 1 < levels + 1 := Nat.succ_lt_succ hlevels
    exact ihFirst _ _ _ (Nat.succ_pos _) (fun _ => .comma hin hothers) (decide_eq_true hin)
  | emptyObject => exact fun levels turn rest hlevels hrest _ => .opening (.closing hlevels (hrest _))
  | object _ ih => exact fun levels turn rest hlevels hrest _ => .opening (ih levels rest hlevels (hrest _))
  | @lastMember name value lexemes _ ih =>
    intro levels rest hlevels hrest
    have hin : 1 < levels + 1 := Nat.succ_lt_succ hlevels
    have hvalue : Legal (levels + 1) .other (lexemes ++ .closing .curly :: rest) :=
      ih _ _ _ (Nat.succ_pos _) (fun _ => .closing hlevels hrest) (decide_eq_true hin)
    have hmember : Legal (levels + 1) .fresh (.quoted name :: .colon :: (lexemes ++ .closing .curly :: rest)) :=
      .quoted (.colon hin hvalue)
    simpa using hmember
  | @member name value entries first lexemes _ _ ihFirst ih =>
    intro levels rest hlevels hrest
    have hin : 1 < levels + 1 := Nat.succ_lt_succ hlevels
    have hothers := ih levels rest hlevels hrest
    have hvalue : Legal (levels + 1) .other (first ++ .comma :: (lexemes ++ rest)) :=
      ihFirst _ _ _ (Nat.succ_pos _) (fun _ => .comma hin hothers) (decide_eq_true hin)
    have hmember : Legal (levels + 1) .fresh (.quoted name :: .colon :: (first ++ .comma :: (lexemes ++ rest))) :=
      .quoted (.colon hin hvalue)
    simpa using hmember

/-- The lexemes of a whole text. -/
theorem legal_of_spells {value : Json} {lexemes : List Lexeme} (h : Spells (.value value) lexemes) :
    Legal 1 .fresh lexemes := by
  have := fits_of_spells h 1 .fresh [] (Nat.succ_pos 0) (fun _ => .done) trivial
  rwa [List.append_nil] at this

/-! ### Their tokens -/

/-- The token of a lexeme. -/
def tokenOf : Lexeme → TokenKind
  | .opening .square => .flowSequence
  | .opening .curly => .flowMapping
  | .closing .square => .flowSequenceEnd
  | .closing .curly => .flowMappingEnd
  | .comma => .flowEntry
  | .colon => .value
  | .word chars => .scalar .plain (String.ofList chars)
  | .quoted text => .scalar .quoted text

/-- The tokens of lexemes. A name may have a token in front that tells that it is a key. -/
inductive Marked : List Lexeme → List TokenKind → Prop
  | nil : Marked [] []
  | lexeme {kinds : List TokenKind} {lexemes : List Lexeme} (lexeme : Lexeme) (h : Marked lexemes kinds) :
      Marked (lexeme :: lexemes) (tokenOf lexeme :: kinds)
  | key {kinds : List TokenKind} {lexemes : List Lexeme} (name : String) (h : Marked lexemes kinds) :
      Marked (.quoted name :: .colon :: lexemes) (.key :: .scalar .quoted name :: .value :: kinds)

namespace Marked
variable {lexemes others : List Lexeme} {kinds more : List TokenKind} {lexeme : Lexeme}

theorem append (h : Marked lexemes kinds) (h' : Marked others more) : Marked (lexemes ++ others) (kinds ++ more) := by
  induction h with
  | nil => exact h'
  | lexeme lexeme _ ih => exact .lexeme lexeme ih
  | key name _ ih => exact .key name ih

theorem snoc (h : Marked lexemes kinds) (lexeme : Lexeme) : Marked (lexemes ++ [lexeme]) (kinds ++ [tokenOf lexeme]) :=
  h.append (.lexeme lexeme .nil)

/-- Lexemes without any mark. -/
theorem plain (lexemes : List Lexeme) : Marked lexemes (lexemes.map tokenOf) := by
  induction lexemes with
  | nil => exact .nil
  | cons lexeme lexemes ih => exact .lexeme lexeme ih

theorem no_end (h : Marked lexemes kinds) : TokenKind.streamEnd ∉ kinds := by
  induction h with
  | nil => simp
  | lexeme lexeme _ ih =>
    have hne : TokenKind.streamEnd ≠ tokenOf lexeme := by
      rcases lexeme with (_ | _) | (_ | _) | _ | _ | _ | _ <;> nofun
    simp [hne, ih]
  | key name _ ih => simp [ih]

theorem of_nil (h : Marked [] kinds) : kinds = [] := by
  cases h
  rfl

theorem of_singleton (h : Marked [lexeme] kinds) : kinds = [tokenOf lexeme] := by
  cases h with
  | lexeme _ h => rw [h.of_nil]

theorem of_opening {bracket : Bracket} (h : Marked (.opening bracket :: lexemes) kinds) :
    ∃ more, kinds = tokenOf (.opening bracket) :: more ∧ Marked lexemes more := by
  cases h with
  | lexeme _ h => exact ⟨_, rfl, h⟩

/-- A name with its colon is marked as a key or not. -/
theorem of_name {name : String} (h : Marked (.quoted name :: .colon :: lexemes) kinds) :
    ∃ more, Marked lexemes more ∧ (kinds = .scalar .quoted name :: .value :: more ∨
      kinds = .key :: .scalar .quoted name :: .value :: more) := by
  cases h with
  | lexeme _ h =>
    cases h with
    | lexeme _ h => exact ⟨_, h, .inl rfl⟩
  | key _ h => exact ⟨_, h, .inr rfl⟩

/-- A comma or a closing bracket parts the tokens as it parts the lexemes. -/
theorem split (h : Marked (lexemes ++ lexeme :: others) kinds)
    (hlexeme : lexeme = .comma ∨ ∃ bracket, lexeme = .closing bracket) :
    ∃ before after, kinds = before ++ tokenOf lexeme :: after ∧ Marked lexemes before ∧ Marked others after := by
  generalize hwhole : lexemes ++ lexeme :: others = whole at h
  induction h generalizing lexemes with
  | nil => simp at hwhole
  | @lexeme kinds' rest first h ih =>
    cases lexemes with
    | nil =>
      cases hwhole
      exact ⟨[], kinds', rfl, .nil, h⟩
    | cons _ lexemes =>
      cases hwhole
      obtain ⟨before, after, rfl, hbefore, hafter⟩ := ih rfl
      exact ⟨tokenOf first :: before, after, rfl, .lexeme first hbefore, hafter⟩
  | @key kinds' rest name h ih =>
    match lexemes with
    | [] =>
      cases hwhole
      rcases hlexeme with h | ⟨_, h⟩ <;> cases h
    | [_] =>
      cases hwhole
      rcases hlexeme with h | ⟨_, h⟩ <;> cases h
    | _ :: _ :: lexemes =>
      cases hwhole
      obtain ⟨before, after, rfl, hbefore, hafter⟩ := ih rfl
      exact ⟨_, after, rfl, .key name hbefore, hafter⟩

end Marked

/-- A list of tokens, or as many of them as could be read and then a fault. -/
inductive Follows : List TokenKind → List TokenKind → Prop
  | fault (kinds : List TokenKind) : Follows [.fault] kinds
  | nil : Follows [] []
  | cons (kind : TokenKind) {found kinds : List TokenKind} (h : Follows found kinds) :
      Follows (kind :: found) (kind :: kinds)

namespace Follows
variable {found kinds : List TokenKind} {kind : TokenKind}

theorem refl (kinds : List TokenKind) : Follows kinds kinds := by
  induction kinds with
  | nil => exact .nil
  | cons kind kinds ih => exact .cons kind ih

end Follows

end AddonConfig.Yaml
