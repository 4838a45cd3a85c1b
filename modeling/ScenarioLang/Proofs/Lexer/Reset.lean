import ScenarioLang.Proofs.Lexer.Location

namespace ScenarioLang

inductive LexerAction where
  | line (text : Text) (number : Nat)
  | reset | recover | finish

def LexerAction.returns : LexerAction → Bool
  | line _ _ => false
  | reset | recover | finish => true

-- All that can be seen of a lexer: what became of a line, what was handed over,
-- and what it shows afterwards.
structure LexerAnswer where
  outcome : Option LineOutcome
  handed : Option Reading
  lexed : Reading
  language : Text
  inLongString : Bool

namespace LexerState

variable {setup : LexerSetup} {state : LexerState}

def shown (state : LexerState) (outcome : Option LineOutcome) (handed : Option Reading) : LexerAnswer :=
  ⟨outcome,handed,state.lexed,state.language,state.inLongString⟩

def act (setup : LexerSetup) (state : LexerState) : LexerAction → LexerAnswer × LexerState
  | .line text number =>
    let (outcome,next) := state.addLine setup text number
    (next.shown (some outcome) none,next)
  | .reset => let next := state.reset setup; (next.shown none none,next)
  | .recover => let next := state.recover setup; (next.shown none none,next)
  | .finish =>
    let (handed,next) := state.finish setup
    (next.shown none (some handed),next)

def after (setup : LexerSetup) (state : LexerState) (actions : List LexerAction) : LexerState :=
  actions.foldl (fun state action => (state.act setup action).2) state

def answers (setup : LexerSetup) : LexerState → List LexerAction → List LexerAnswer
  | _,[] => []
  | state,action :: rest => (state.act setup action).1 :: answers setup (state.act setup action).2 rest

theorem act_returns {back : LexerAction} (returns : back.returns = true) (bound : Bound setup state) :
    (state.act setup back).2 = setup.initial := by
  cases back with
  | line => cases returns
  | reset => exact reset_bound bound
  | recover => exact recover_initial setup state
  | finish => exact reset_bound bound

theorem act_bound (settled : setup.Settled) (bound : Bound setup state) (action : LexerAction) :
    Bound setup (state.act setup action).2 := by
  cases back : action.returns with
  | true =>
    rw [act_returns back bound]
    exact initial_bound setup
  | false =>
    cases action with
    | line text number => exact addLine_bound text number settled bound
    | _ => cases back

theorem after_bound (settled : setup.Settled) (bound : Bound setup state) (actions : List LexerAction) :
    Bound setup (state.after setup actions) := by
  induction actions generalizing state with
  | nil => exact bound
  | cons action rest ih => exact ih (act_bound settled bound action)

-- Whatever a lexer went through, switches, unknown languages and crashes among
-- it, once it has gone back it cannot be told from a new one. It hands over what it
-- has gathered, and lines only ever add to that.
theorem returned_fresh {language : Text} {source : DictionarySource} {stopOnError : Bool}
    (provided : Dictionary.Provided source) (ready : LexerSetup.start language source stopOnError = .ready setup)
    (history later : List LexerAction) {back : LexerAction} (returns : back.returns = true) :
    let state := setup.initial.after setup history
    (state.act setup back).2.answers setup later = setup.initial.answers setup later ∧
    (state.act setup .finish).1.handed = some state.lexed ∧
    ∀ text number, ∃ added, (state.act setup (.line text number)).2.lexed = state.lexed.followedBy added := by
  intro state
  have settled := LexerSetup.start_settled provided ready
  have bound := after_bound settled (initial_bound setup) history
  rw [act_returns returns bound]
  refine ⟨rfl,rfl,?_⟩
  intro text number
  obtain ⟨added,lexed,_⟩ := addLine_adds setup state text number
  exact ⟨added,lexed⟩

theorem returned_fresh_crashed : ∃ setup,
    LexerSetup.start ['e','n'] (Dictionary.crashingOn [['x','x']] Dictionary.builtinSource) false = .ready setup ∧
    let state := setup.initial.after setup [.line "#language: EN_us".toList 1,.line "#language: pt".toList 2,
      .line "#language: xx".toList 3]
    (state.act setup .recover).2.answers setup [.line "Feature: b".toList 1,.finish] =
      setup.initial.answers setup [.line "Feature: b".toList 1,.finish] := by
  have ready : LexerSetup.start ['e','n'] (Dictionary.crashingOn [['x','x']] Dictionary.builtinSource) false =
      .ready ⟨_,Dictionary.english,false⟩ := rfl
  exact ⟨_,ready,(returned_fresh (.crashing [['x','x']] .builtin) ready _ _ rfl).1⟩

end LexerState
end ScenarioLang
