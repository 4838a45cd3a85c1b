import Mathlib.Algebra.Order.BigOperators.Group.List
import Mathlib.Algebra.Order.Group.Nat
import ScenarioLang.Proofs.Compilation.Termination
import ScenarioLang.Proofs.Pipeline.Lines

namespace ScenarioLang

-- A text behind a byte order mark, unless it starts with one already.
def Stored.marked : Stored → Stored
  | .text content => .text (if content.head? = some '\uFEFF' then content else '\uFEFF' :: content)
  | other => other

def FileStore.marking (chosen : Path → Bool) (store : FileStore) : FileStore :=
  { store with files := store.files.map fun entry => (entry.1,if chosen entry.1 then entry.2.marked else entry.2) }

def Compiler.marking (chosen : Path → Bool) (compiler : Compiler σ) : Compiler σ :=
  { compiler with store := compiler.store.marking chosen }

variable {chosen : Path → Bool}

theorem FileStore.read_marking (chosen : Path → Bool) (store : FileStore) (path : Path) :
    (store.marking chosen).read path = store.read path ∨
      (store.marking chosen).read path = (store.read path).marked := by
  simp only [read,marking,List.find?_map]
  have searched : ((fun entry : Path × Stored => entry.1.same path) ∘ fun entry : Path × Stored =>
      (entry.1,if chosen entry.1 then entry.2.marked else entry.2)) = fun entry => entry.1.same path := rfl
  rw [searched]
  cases store.files.find? fun entry => entry.1.same path with
  | none => exact .inl rfl
  | some entry =>
    simp only [Option.map_some]
    split
    · exact .inr rfl
    · exact .inl rfl

namespace Run

variable {compiler : Compiler σ}

theorem withoutMark_marked {content : Text} (unmarked : content.head? ≠ some '\uFEFF') :
    withoutMark ('\uFEFF' :: content) = withoutMark content := by
  cases content with
  | nil => rfl
  | cons c rest => exact (withoutMark.eq_2 (c :: rest) fun tail same => unmarked (by rw [same]; rfl)).symm

theorem load_marking (run : Run σ) (index : Nat) (path : Path) :
    run.load (compiler.marking chosen) index path = run.load compiler index path := by
  have store : (compiler.marking chosen).store = compiler.store.marking chosen := rfl
  unfold load
  rcases compiler.store.read_marking chosen path with same | marked
  · rw [store,same]
  · rw [store,marked]
    cases compiler.store.read path with
    | text content =>
      simp only [Stored.marked]
      split
      · rfl
      · rename_i unmarked
        rw [withoutMark_marked unmarked]
    | unreadable reason => rfl
    | crashing => rfl

theorem act_marking (run : Run σ) (index : Nat) (task : FileTask) :
    run.act (compiler.marking chosen) index task = run.act compiler index task := by
  unfold act
  cases task.stage with
  | admitted => exact congrArg some (load_marking run index task.path)
  | reported doc => cases doc <;> rfl
  | _ => rfl

theorem take_marking (run : Run σ) : run.take (compiler.marking chosen) = run.take compiler := by
  funext turn
  cases turn with
  | input => rfl
  | task index => exact congrArg (Option.bind _) (funext fun task => act_marking run index task)

theorem drive_marking (fuel : Nat) (run : Run σ) : run.drive (compiler.marking chosen) fuel = run.drive compiler fuel := by
  induction fuel generalizing run with
  | zero => rfl
  | succ fuel ih =>
    simp only [drive,take_marking]
    split
    · exact ih _
    · rfl

theorem drive_beyond {run : Run σ} {fuel more : Nat} (ended : (run.drive compiler fuel).Stuck compiler)
    (enough : fuel ≤ more) : run.drive compiler more = run.drive compiler fuel := by
  induction fuel generalizing run more with
  | zero =>
    have none : run.turns.findSome? (run.take compiler) = none :=
      List.findSome?_eq_none_iff.mpr fun turn _ => ended turn
    cases more with
    | zero => rfl
    | succ more => simp only [drive,none]
  | succ fuel ih =>
    obtain ⟨rest,rfl⟩ : ∃ rest, more = rest + 1 := ⟨more - 1,by omega⟩
    simp only [drive] at ended ⊢
    split
    · rename_i next found
      rw [found] at ended
      exact ih ended (by omega)
    · rfl

theorem lines_marked (stored : Stored) : stored.lines ≤ stored.marked.lines := by
  cases stored with
  | text content =>
    simp only [Stored.marked]
    split
    · exact Nat.le_refl _
    · exact Nat.le_succ _
  | unreadable reason => exact Nat.le_refl _
  | crashing => exact Nat.le_refl _

theorem turnBound_marking (chosen : Path → Bool) (compiler : Compiler σ) (inputs : List Path) :
    turnBound compiler inputs ≤ turnBound (compiler.marking chosen) inputs := by
  have each : ∀ entry ∈ compiler.store.files,
      entry.2.lines ≤ (if chosen entry.1 then entry.2.marked else entry.2).lines := by
    intro entry _
    split
    · exact lines_marked entry.2
    · exact Nat.le_refl _
  have total := List.sum_le_sum each
  have plain : turnBound compiler inputs =
    10*(inputs.length + (compiler.store.files.map fun entry => entry.2.lines).sum) := rfl
  have marked : turnBound (compiler.marking chosen) inputs = 10*(inputs.length +
      ((compiler.store.marking chosen).files.map fun entry => entry.2.lines).sum) := rfl
  rw [plain,marked,FileStore.marking,List.map_map]
  exact Nat.mul_le_mul_left 10 (Nat.add_le_add_left total _)

end Run

namespace Compiler

theorem compile_marking {compiler : Compiler σ} {files : List Path} {base : Path} {recognition : σ}
    (ended : ((Run.start (files.map base.resolve) recognition).drive compiler
      (Run.turnBound compiler (files.map base.resolve))).Stuck compiler) (analyzer : Analyzer) :
    (compiler.marking chosen).compile analyzer files base recognition =
      compiler.compile analyzer files base recognition := by
  have same := Run.drive_beyond ended (Run.turnBound_marking chosen compiler _)
  simp only [compile,Run.drive_marking,same]

theorem Regular.compile_ends {compiler : Compiler Unit} (regular : compiler.Regular) (files : List Path) (base : Path) :
    ((Run.start (files.map base.resolve) ()).drive compiler
      (Run.turnBound compiler (files.map base.resolve))).Stuck compiler := by
  refine (Run.drive_stuck regular ?_ .none _ (Nat.le_add_left _ _)).1
  intro path member
  obtain ⟨file,_,rfl⟩ := List.mem_map.mp member
  exact Path.resolve_normal base file

end Compiler

-- Neither the way lines are broken nor a mark before a text makes a difference. A file
-- comes to the same but for the hash, lines are read alike however they were parted,
-- and a compilation does not see the marks at all.
theorem breaks_and_marks_unseen {σ : Type} :
    (∀ recognizer : Recognizer σ, recognizer.HashBlind → ∀ t content lineBreak : Text, '\r' ∉ t →
      Pipeline.Recut t content lineBreak → ∀ (pipeline : Pipeline) (path : Path) (problems : ProblemMap) (state : σ),
      let plain := pipeline.process recognizer path t ['\n'] problems state
      pipeline.process recognizer path content lineBreak problems state =
        (plain.1.rehashed (Hash.ofText content),plain.2)) ∧
    (∀ (setup : LexerSetup) (lexer : LexerState) (content : Text), content.getLast? ≠ some '\r' →
      lexer.addLines setup (Pipeline.linesOf content ['\n']) = lexer.addLines setup (Text.numbered content.lines)) ∧
    (∀ (compiler : Compiler σ) (chosen : Path → Bool),
      (∀ run : Run σ, run.take (compiler.marking chosen) = run.take compiler) ∧
      ∀ (files : List Path) (base : Path) (recognition : σ),
        ((Run.start (files.map base.resolve) recognition).drive compiler
          (Run.turnBound compiler (files.map base.resolve))).Stuck compiler →
        ∀ analyzer, (compiler.marking chosen).compile analyzer files base recognition =
          compiler.compile analyzer files base recognition) ∧
    ∀ compiler : Compiler Unit, compiler.Regular → ∀ chosen analyzer files base,
      (compiler.marking chosen).compile analyzer files base () = compiler.compile analyzer files base () := by
  refine ⟨?_,?_,?_,?_⟩
  · intro recognizer blind t content lineBreak plain recut pipeline path problems state
    have lines := Pipeline.linesOf_recut plain recut
    have feeds := Pipeline.linesOf_recut plain .feeds
    exact Pipeline.process_lines blind (lines.trans feeds.symm) pipeline path problems state
  · intro setup lexer content unreturned
    exact lexer.addLines_parted setup unreturned
  · intro compiler chosen
    exact ⟨Run.take_marking,fun files base recognition ended => Compiler.compile_marking ended⟩
  · intro compiler regular chosen analyzer files base
    exact Compiler.compile_marking (regular.compile_ends files base) analyzer

theorem breaks_and_marks_unseen_feature :
    let t : Text := "Feature: a\n\nGiven b".toList
    let setup : LexerSetup := ⟨Dictionary.builtinSource,Dictionary.english,false⟩
    let plain := (Pipeline.ofSetup setup).process .none ⟨['a']⟩ t ['\n'] .empty ()
    let compiler : Compiler Unit :=
      ⟨.standard,.ofTexts [(⟨"/a".toList⟩,"Import \"b\"".toList)] [],Dictionary.builtinSource,.none⟩
    (Pipeline.ofSetup setup).process .none ⟨['a']⟩ (Text.returned t) ['\r','\n'] .empty () =
      (plain.1.rehashed (Hash.ofText (Text.returned t)),plain.2) ∧
    setup.initial.addLines setup (Pipeline.linesOf t ['\n']) =
      setup.initial.addLines setup (Text.numbered (Text.lines t)) ∧
    (compiler.marking fun _ => true).compile .none [⟨"a".toList⟩] ⟨"/".toList⟩ () =
      compiler.compile .none [⟨"a".toList⟩] ⟨"/".toList⟩ () ∧
    (compiler.marking fun path => path.isAbsolute).compile .none [⟨"a".toList⟩] ⟨"/".toList⟩ () =
      compiler.compile .none [⟨"a".toList⟩] ⟨"/".toList⟩ () := by
  intro t setup plain compiler
  obtain ⟨files,lines,runs,compilations⟩ := breaks_and_marks_unseen (σ := Unit)
  have regular : compiler.Regular := ⟨fun _ _ _ => ⟨rfl,rfl⟩,.builtin,Dictionary.english,rfl⟩
  exact ⟨files .none Recognizer.none_blind t _ _ (by decide) .returns _ _ _ _,
    lines setup _ t (by decide),(runs compiler _).2 _ _ _ (regular.compile_ends _ _) _,
    compilations compiler regular _ _ _ _⟩

end ScenarioLang
