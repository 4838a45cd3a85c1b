import ScenarioLang.Proofs.Compilation.Tasks

namespace ScenarioLang

def Phase.status? (readable : Bool) : Phase → Option FileStatus
  | unclaimed => none
  | claimed | read | reported => some .pending
  | listed | followed => some .compiled
  | settled => some (if readable then .done else .failed)

variable {compiler : Compiler Unit} {setup : LexerSetup} {inputs : List Path} {phase : Path → Phase} {path : Path}
  {next : Phase}

theorem update_flag (flag : Path → Phase → β) (same : flag path next = flag path (phase path)) (query : Path) :
    flag query (Function.update phase path next query) = flag query (phase query) := by
  by_cases own : query = path
  · subst own
    rw [Function.update_self]
    exact same
  · rw [Function.update_of_ne own]

structure StatusSound (compiler : Compiler Unit) (statuses : StatusTable) (phase : Path → Phase) : Prop where
  ordered : PathMap.Ordered statuses
  entries : ∀ path status, (path,status) ∈ statuses ↔
    (phase path).status? (compiler.store.hasText path) = some status

namespace StatusSound

variable {statuses : StatusTable}

theorem keep (sound : StatusSound compiler statuses phase)
    (same : next.status? (compiler.store.hasText path) = (phase path).status? (compiler.store.hasText path)) :
    StatusSound compiler statuses (Function.update phase path next) := by
  refine ⟨sound.ordered,fun query status => ?_⟩
  rw [sound.entries,update_flag (fun path phase => phase.status? (compiler.store.hasText path)) same]

theorem spelled (sound : StatusSound compiler statuses phase)
    (normal : ∀ path, phase path ≠ .unclaimed → path.Normal) : PathMap.Spelled statuses := by
  intro entry member
  apply normal entry.1
  intro unclaimed
  have held := (sound.entries entry.1 entry.2).mp member
  rw [unclaimed] at held
  cases held

theorem put (sound : StatusSound compiler statuses phase)
    (normal : ∀ path, phase path ≠ .unclaimed → path.Normal) (own : path.Normal) {status : FileStatus}
    (reached : next.status? (compiler.store.hasText path) = some status) :
    StatusSound compiler (PathMap.put path status statuses) (Function.update phase path next) := by
  refine ⟨PathMap.ordered_update sound.ordered,fun query held => ?_⟩
  rw [PathMap.mem_put sound.ordered (sound.spelled normal) own]
  by_cases same : query = path
  · subst same
    rw [Function.update_self,reached]
    simp [eq_comm]
  · rw [Function.update_of_ne same,← sound.entries]
    simp [same]

theorem get? (sound : StatusSound compiler statuses phase)
    (normal : ∀ path, phase path ≠ .unclaimed → path.Normal) (own : path.Normal) :
    PathMap.get? path statuses = (phase path).status? (compiler.store.hasText path) := by
  apply Option.ext
  intro status
  rw [← sound.entries,PathMap.mem_iff_get? sound.ordered (sound.spelled normal) own]

theorem advance (sound : StatusSound compiler statuses phase)
    (normal : ∀ path, phase path ≠ .unclaimed → path.Normal) (own : path.Normal) {current status : FileStatus}
    (held : (phase path).status? (compiler.store.hasText path) = some current)
    (reached : next.status? (compiler.store.hasText path) = some status)
    (may : current.canAdvance status = true) :
    StatusSound compiler (StatusTable.advance path status statuses).2 (Function.update phase path next) := by
  have found := (sound.get? normal own).trans held
  simp only [StatusTable.advance,found,may,if_true]
  exact sound.put normal own reached

theorem start : StatusSound compiler [] fun _ => .unclaimed :=
  ⟨List.Pairwise.nil,fun path status => ⟨fun member => (by cases member),fun held => (by cases held)⟩⟩

end StatusSound

structure Tracks (flag : Path → Phase → Bool) (paths : List Path) (phase : Path → Phase) : Prop where
  once : paths.Nodup
  members : ∀ path, path ∈ paths ↔ flag path (phase path) = true

namespace Tracks

variable {flag : Path → Phase → Bool} {paths : List Path}

theorem keep (tracks : Tracks flag paths phase) (same : flag path next = flag path (phase path)) :
    Tracks flag paths (Function.update phase path next) :=
  ⟨tracks.once,fun query => by rw [tracks.members,update_flag flag same]⟩

theorem absent (tracks : Tracks flag paths phase) (fresh : flag path (phase path) = false) : path ∉ paths := by
  rw [tracks.members,fresh]
  simp

theorem members_update (tracks : Tracks flag paths phase) (reached : flag path next = true) (query : Path) :
    flag query (Function.update phase path next query) = true ↔ query = path ∨ query ∈ paths := by
  by_cases own : query = path
  · subst own
    simp [reached]
  · rw [Function.update_of_ne own,tracks.members]
    simp [own]

theorem cons (tracks : Tracks flag paths phase) (fresh : flag path (phase path) = false)
    (reached : flag path next = true) : Tracks flag (path :: paths) (Function.update phase path next) := by
  refine ⟨List.nodup_cons.mpr ⟨tracks.absent fresh,tracks.once⟩,fun query => ?_⟩
  rw [tracks.members_update reached,List.mem_cons]

theorem concat (tracks : Tracks flag paths phase) (fresh : flag path (phase path) = false)
    (reached : flag path next = true) : Tracks flag (paths ++ [path]) (Function.update phase path next) := by
  refine ⟨?_,fun query => ?_⟩
  · rw [List.nodup_append]
    refine ⟨tracks.once,by simp,?_⟩
    intro a inside b own same
    rw [List.mem_singleton.mp own] at same
    exact tracks.absent fresh (same ▸ inside)
  · rw [tracks.members_update reached,List.mem_append,List.mem_singleton]
    exact or_comm

theorem start (never : ∀ path, flag path .unclaimed = false) : Tracks flag [] fun _ => .unclaimed :=
  ⟨List.nodup_nil,fun path => by simp [never]⟩

end Tracks

namespace FileProblems

def sum (parts : List FileProblems) : FileProblems := parts.foldr add none

theorem sum_cons (first : FileProblems) (rest : List FileProblems) : sum (first :: rest) = first.add (sum rest) := rfl

theorem sum_concat (parts : List FileProblems) (last : FileProblems) :
    sum (parts ++ [last]) = (sum parts).add last := by
  induction parts with
  | nil => simp [sum,add_none,none_add]
  | cons first rest ih => rw [List.cons_append,sum_cons,sum_cons,ih,add_assoc]

theorem sum_none {parts : List FileProblems} (silent : ∀ part ∈ parts, part = none) : sum parts = none := by
  induction parts with
  | nil => rfl
  | cons first rest ih =>
    obtain ⟨own,others⟩ := List.forall_mem_cons.mp silent
    rw [sum_cons,own,ih others,none_add]

theorem sum_alone {paths : List Path} {told : Path → FileProblems} {path : Path} (once : paths.Nodup)
    (member : path ∈ paths) (silent : ∀ other ∈ paths, other ≠ path → told other = none) :
    sum (paths.map told) = told path := by
  induction paths with
  | nil => cases member
  | cons first rest ih =>
    obtain ⟨fresh,later⟩ := List.nodup_cons.mp once
    rw [List.map_cons,sum_cons]
    rcases List.mem_cons.mp member with rfl | inside
    · have quiet : sum (rest.map told) = none := by
        apply sum_none
        intro part part_at
        obtain ⟨other,other_at,rfl⟩ := List.mem_map.mp part_at
        apply silent other (List.mem_cons_of_mem _ other_at)
        intro same
        exact fresh (same ▸ other_at)
      rw [quiet,add_none]
    · have apart : first ≠ path := fun same => fresh (same ▸ inside)
      rw [silent first List.mem_cons_self apart,none_add]
      exact ih later inside fun other other_at => silent other (List.mem_cons_of_mem _ other_at)

theorem sum_sole {paths others : List Path} {told : Path → FileProblems} (once : paths.Nodup) (also : others.Nodup)
    (same : ∀ path, path ∈ paths ↔ path ∈ others)
    (sole : ∀ a ∈ paths, ∀ b ∈ paths, told a ≠ none → told b ≠ none → a = b) :
    sum (paths.map told) = sum (others.map told) := by
  by_cases speaks : ∃ path ∈ paths, told path ≠ none
  · obtain ⟨path,member,speaks⟩ := speaks
    have silent : ∀ other ∈ paths, other ≠ path → told other = none := by
      intro other inside apart
      by_contra also_speaks
      exact apart (sole other inside path member also_speaks speaks)
    rw [sum_alone once member silent,
      sum_alone also ((same path).mp member) fun other inside => silent other ((same other).mpr inside)]
  · have silent : ∀ path ∈ paths, told path = none := by
      intro path member
      by_contra also_speaks
      exact speaks ⟨path,member,also_speaks⟩
    rw [sum_none (List.forall_mem_map.mpr silent),
      sum_none (List.forall_mem_map.mpr fun path member => silent path ((same path).mpr member))]

theorem errors_sum (parts : List FileProblems) : (sum parts).errors = parts.flatMap errors := by
  induction parts with
  | nil => rfl
  | cons first rest ih => rw [sum_cons,List.flatMap_cons,← ih]; rfl

theorem warnings_sum (parts : List FileProblems) : (sum parts).warnings = parts.flatMap warnings := by
  induction parts with
  | nil => rfl
  | cons first rest ih => rw [sum_cons,List.flatMap_cons,← ih]; rfl

end FileProblems

structure ProblemsSound (compiler : Compiler Unit) (problems : ProblemMap) (phase : Path → Phase)
    (reported : List Path) : Prop where
  tracks : Tracks (fun _ phase => phase.isReported) reported phase
  ordered : problems.Ordered
  said : ∀ query, problems.said query = .sum (reported.map fun path => (compiler.told path).said query)

structure SpecSound (compiler : Compiler Unit) (spec : Specification) (phase : Path → Phase)
    (listed : List Path) : Prop where
  tracks : Tracks (fun path phase => phase.isListed && compiler.store.hasText path) listed phase
  documents : spec.documents.map some = listed.map fun path => (compiler.outcome path).1
  positions : spec.positions = listed.zipIdx.reverse

theorem ProblemsSound.report {problems : ProblemMap} {reported : List Path} (regular : compiler.Regular)
    (sound : ProblemsSound compiler problems phase reported) (fresh : (phase path).isReported = false)
    (reached : next.isReported = true) :
    ProblemsSound compiler (problems.merge (compiler.told path)) (Function.update phase path next)
      (reported ++ [path]) := by
  refine ⟨sound.tracks.concat fresh reached,ProblemMap.ordered_merge sound.ordered,fun query => ?_⟩
  rw [ProblemMap.said_merge sound.ordered (Compiler.told_ordered regular path),sound.said,List.map_append,
    List.map_singleton,FileProblems.sum_concat]

theorem SpecSound.insert {spec : Specification} {listed : List Path} {doc : Document} (regular : compiler.Regular)
    (sound : SpecSound compiler spec phase listed) (normal : ∀ path, phase path ≠ .unclaimed → path.Normal)
    (own : path.Normal) (fresh : (phase path).isListed = false) (reached : next.isListed = true)
    (made : (compiler.outcome path).1 = some doc) :
    SpecSound compiler (spec.insert doc) (Function.update phase path next) (listed ++ [path]) := by
  have readable : compiler.store.hasText path = true := by rw [← Compiler.outcome_isSome regular,made]; rfl
  have fresh' : ((phase path).isListed && compiler.store.hasText path) = false := by rw [fresh]; rfl
  have key := Compiler.outcome_key regular made
  have absent : spec.position? path = none := by
    rw [Specification.position?,sound.positions,Option.map_eq_none_iff,List.find?_eq_none]
    rintro ⟨other,i⟩ member same
    have inside : other ∈ listed := List.fst_mem_of_mem_zipIdx (List.mem_reverse.mp member)
    have far := (sound.tracks.members other).mp inside
    have claimed : phase other ≠ .unclaimed := by
      intro unclaimed
      rw [unclaimed] at far
      cases far
    obtain rfl := (Path.normal_same (normal other claimed) own).mp same
    exact sound.tracks.absent fresh' inside
  have length : spec.documents.length = listed.length := by
    simpa using congrArg List.length sound.documents
  refine ⟨sound.tracks.concat fresh' (by rw [reached,readable]; rfl),?_,?_⟩
  · simp only [Specification.insert,key,absent]
    rw [List.map_append,sound.documents,List.map_append,List.map_singleton,List.map_singleton,made]
  · simp only [Specification.insert,key,absent,length,sound.positions]
    rw [List.zipIdx_append,List.reverse_append]
    simp

end ScenarioLang
