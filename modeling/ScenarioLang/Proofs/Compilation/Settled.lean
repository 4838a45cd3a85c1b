import ScenarioLang.Proofs.Compilation.Stopping

namespace ScenarioLang

-- Where the imports of a file that is done have been left: settled, or never claimed
-- because an error stopped the compilation before.
structure Compilation.Followed (compiler : Compiler Unit) (run : Run Unit) (result : Compilation) (imported : Path) :
    Prop where
  terminal : ∀ status, (imported,status) ∈ result.statuses → status = .done ∨ status = .failed
  known : compiler.options.stopOnError = false ∨ run.problems.hasErrors = false →
    imported ∈ PathMap.keys result.statuses

namespace Account

variable {compiler : Compiler Unit} {setup : LexerSetup} {inputs : List Path} {run : Run Unit}
  {phase : Path → Phase} {reported listed : List Path} {path imported : Path}

theorem goesOn_of_clean (regular : compiler.Regular)
    (sound : Account compiler setup inputs run phase reported listed)
    (clean : compiler.options.stopOnError = false ∨ run.problems.hasErrors = false) : run.stopped = false := by
  rw [sound.stopped,List.any_eq_false]
  intro path member
  rcases clean with off | none
  · simp [Compiler.stops,off]
  · rw [sound.hasErrors_eq regular,List.any_eq_false] at none
    simpa [Compiler.stops] using fun _ => none path member

theorem imported_settled (sound : Account compiler setup inputs run phase reported listed) (stuck : run.Stuck compiler)
    (goesOn : run.stopped = false) (settled : phase path = .settled) (member : imported ∈ compiler.imports path) :
    phase imported = .settled := by
  have far : (phase path).isFollowed = true := by rw [settled]; rfl
  exact sound.task_settled stuck (sound.tasks.followed goesOn path far imported member)

theorem followed (regular : compiler.Regular) (sound : Account compiler setup inputs run phase reported listed)
    (stuck : run.Stuck compiler) (analyzer : Analyzer) (settled : phase path = .settled)
    (member : imported ∈ compiler.imports path) :
    (Compilation.ofRun analyzer run).Followed compiler run imported := by
  have status := fun status => sound.status_iff stuck imported status
  refine ⟨fun found held => ?_,fun clean => ?_⟩
  · rw [((status found).mp held).2]
    cases compiler.store.hasText imported
    · exact .inr rfl
    · exact .inl rfl
  · have reached := sound.imported_settled stuck (sound.goesOn_of_clean regular clean) settled member
    exact List.mem_map_of_mem ((status _).mpr ⟨reached,rfl⟩)

end Account

-- Whatever the order of turns, a file that is done has its document in the
-- specification. All that it imports is done or given up as well, unless errors stop
-- and there is one: then an import may be left without a status.
theorem Compiler.done_follows {compiler : Compiler Unit} (regular : compiler.Regular) (analyzer : Analyzer)
    (files : List Path) (base : Path) :
    let inputs := files.map base.resolve
    (∃ count run, Run.Steps compiler count (.start inputs ()) run ∧ run.Stuck compiler ∧
      (compiler.compile analyzer files base ()).1 = .ofRun analyzer run) ∧
    ∀ count run, Run.Steps compiler count (.start inputs ()) run → run.Stuck compiler →
      let result := Compilation.ofRun analyzer run
      ∀ path, (path,.done) ∈ result.statuses →
        ∃ doc, result.spec.get? path = some doc ∧
          ∀ imported ∈ Run.importsOf path doc, result.Followed compiler run imported := by
  intro inputs
  have spelled : ∀ path ∈ inputs, path.Normal := by
    intro path member
    obtain ⟨file,_,rfl⟩ := List.mem_map.mp member
    exact Path.resolve_normal base file
  constructor
  · obtain ⟨stuck,count,steps⟩ := Run.drive_stuck regular spelled .none (Run.turnBound compiler inputs)
      (Nat.le_add_left _ _)
    exact ⟨count,_,steps,stuck,rfl⟩
  · intro count run steps stuck result path done
    obtain ⟨words,ready⟩ := regular.ready
    obtain ⟨phase,reported,listed,sound⟩ := steps.account regular (ready _) spelled
    obtain ⟨settled,own⟩ := (sound.status_iff stuck path .done).mp done
    have readable : (compiler.outcome path).1.isSome = true := by
      rw [outcome_isSome regular]
      by_contra unread
      rw [if_neg unread] at own
      cases own
    obtain ⟨doc,made⟩ := Option.isSome_iff_exists.mp readable
    refine ⟨doc,(sound.document regular spelled stuck settled).trans made,fun imported member => ?_⟩
    apply sound.followed regular stuck analyzer settled
    rw [imports,made]
    exact member

namespace Compiler

theorem done_follows_dangling : ∃ doc,
    let result := (dangling.compile .none [⟨['a']⟩] ⟨['/']⟩ ()).1
    result.spec.get? ⟨"/a".toList⟩ = some doc ∧
      ∀ imported ∈ Run.importsOf ⟨"/a".toList⟩ doc, imported ∈ PathMap.keys result.statuses := by
  obtain ⟨⟨count,run,steps,stuck,same⟩,follows⟩ :=
    done_follows dangling_standard.regular .none [⟨['a']⟩] ⟨['/']⟩
  have done : (⟨"/a".toList⟩,.done) ∈ (dangling.compile .none [⟨['a']⟩] ⟨['/']⟩ ()).1.statuses := by decide +kernel
  rw [same] at done ⊢
  obtain ⟨doc,found,followed⟩ := follows count run steps stuck _ done
  exact ⟨doc,found,fun imported member => (followed imported member).known (.inl rfl)⟩

def halted : Compiler Unit :=
  ⟨{ Options.standard with stopOnError := true },
    .ofTexts [(⟨"/a".toList⟩,"Import \"b\"\nScenario: x".toList),(⟨"/b".toList⟩,"Feature: B".toList)] [],
    Dictionary.builtinSource,.none⟩

theorem halted_regular : halted.Regular where
  keeps _ _ _ := ⟨rfl,rfl⟩
  provided := .builtin
  checked := ⟨Dictionary.english,rfl⟩

-- The import was read from the file that is done, but never claimed.
theorem done_unfollowed : halted.Regular ∧ ∃ doc,
    let result := (halted.compile .none [⟨['a']⟩] ⟨['/']⟩ ()).1
    (⟨"/a".toList⟩,.done) ∈ result.statuses ∧ result.spec.get? ⟨"/a".toList⟩ = some doc ∧
      ⟨"/b".toList⟩ ∈ Run.importsOf ⟨"/a".toList⟩ doc ∧
      ∀ status, (⟨"/b".toList⟩,status) ∉ result.statuses := by
  let result := (halted.compile .none [⟨['a']⟩] ⟨['/']⟩ ()).1
  have statuses : result.statuses = [(⟨"/a".toList⟩,.done)] := by decide +kernel
  have imports : (result.spec.get? ⟨"/a".toList⟩).map (Run.importsOf ⟨"/a".toList⟩) = some [⟨"/b".toList⟩] := by
    decide +kernel
  obtain ⟨doc,found,same⟩ := Option.map_eq_some_iff.mp imports
  refine ⟨halted_regular,doc,?_,found,?_,fun status held => ?_⟩
  · exact statuses ▸ List.mem_cons_self
  · exact same ▸ List.mem_cons_self
  · have single : ((⟨"/b".toList⟩,status) : Path × FileStatus) ∈ [(⟨"/a".toList⟩,.done)] := statuses ▸ held
    cases (Prod.mk.inj (List.mem_singleton.mp single)).1

end Compiler
end ScenarioLang
