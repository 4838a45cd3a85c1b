import Mathlib.Data.List.Destutter
import ScenarioLang.Proofs.PathMap
import ScenarioLang.Status

namespace ScenarioLang

def FileStatus.rank : FileStatus → Nat
  | pending => 0
  | compiled => 1
  | done | failed => 2

theorem FileStatus.canAdvance_iff (current status : FileStatus) :
    current.canAdvance status = true ↔ current.rank < status.rank := by
  cases current <;> cases status <;> decide

theorem FileStatus.isTerminal_iff (status : FileStatus) : status.isTerminal = true ↔ 2 ≤ status.rank := by
  cases status <;> decide

-- What is asked of the table. Every call has the table to itself until it has its answer,
-- so all the calls of all tasks stand in one order.
inductive StatusCall where
  | claim (path : Path) | advance (path : Path) (status : FileStatus)
  deriving DecidableEq, Repr

namespace StatusCall

def path : StatusCall → Path
  | claim path | advance path _ => path

def status : StatusCall → FileStatus
  | claim _ => .pending
  | advance _ status => status

def claims (path : Path) : StatusCall → Bool
  | claim claimed => claimed.same path
  | advance _ _ => false

def run (call : StatusCall) (table : StatusTable) : Bool × StatusTable :=
  match call with
  | claim path => StatusTable.claim path table
  | advance path status => StatusTable.advance path status table

variable {call : StatusCall} {table : StatusTable} {path : Path}

theorem run_refused (refused : (call.run table).1 = false) : (call.run table).2 = table := by
  cases call with
  | claim claimed =>
    simp only [run,StatusTable.claim] at refused ⊢
    split at refused
    · simp only [*,if_true]
    · cases refused
  | advance moved status =>
    simp only [run,StatusTable.advance] at refused ⊢
    split at refused
    · split at refused
      · cases refused
      · rename_i stays
        rw [if_neg stays]
    · rfl

theorem run_granted (granted : (call.run table).1 = true) :
    (call.run table).2 = PathMap.put call.path call.status table := by
  cases call with
  | claim claimed =>
    simp only [run,StatusTable.claim] at granted ⊢
    split at granted
    · cases granted
    · rename_i fresh
      rw [if_neg fresh]
      rfl
  | advance moved status =>
    simp only [run,StatusTable.advance] at granted ⊢
    split at granted
    · split at granted
      · rename_i able
        rw [if_pos able]
        rfl
      · cases granted
    · cases granted

theorem claim_granted_iff : ((claim path).run table).1 = true ↔ PathMap.get? path table = none := by
  have held : PathMap.holds path table = true ↔ PathMap.get? path table ≠ none := Option.isSome_iff_ne_none
  by_cases taken : PathMap.holds path table = true
  · simp [run,StatusTable.claim,taken,held.mp taken]
  · simp [run,StatusTable.claim,taken,not_not.mp (mt held.mpr taken)]

theorem advance_granted_iff {status : FileStatus} : ((advance path status).run table).1 = true ↔
    ∃ current, PathMap.get? path table = some current ∧ current.rank < status.rank := by
  simp only [run,StatusTable.advance,← FileStatus.canAdvance_iff]
  cases PathMap.get? path table with
  | none => simp
  | some current => cases able : current.canAdvance status <;> simp [able]

theorem run_ordered (ordered : PathMap.Ordered table) : PathMap.Ordered (call.run table).2 := by
  cases granted : (call.run table).1 with
  | false => rwa [run_refused granted]
  | true => rw [run_granted granted]; exact PathMap.ordered_update ordered

theorem run_other (other : call.path.same path = false) :
    PathMap.get? path (call.run table).2 = PathMap.get? path table := by
  cases granted : (call.run table).1 with
  | false => rw [run_refused granted]
  | true => rw [run_granted granted]; exact PathMap.get?_update_other other

theorem run_own (ordered : PathMap.Ordered table) (granted : (call.run table).1 = true)
    (same : call.path.same path = true) : PathMap.get? path (call.run table).2 = some call.status := by
  rw [run_granted granted]
  exact PathMap.get?_update_own ordered same

end StatusCall

inductive FileStatus.Moves : Option FileStatus → Option FileStatus → Prop where
  | claimed : Moves none (some pending)
  | advanced {current status : FileStatus} (forward : current.rank < status.rank) : Moves (some current) (some status)

theorem FileStatus.Moves.forward {before after : Option FileStatus} (moves : Moves before after) :
    ∃ status, after = some status ∧ ∀ current, before = some current → current.rank < status.rank := by
  cases moves with
  | claimed => exact ⟨pending,rfl,fun _ same => by cases same⟩
  | advanced forward => exact ⟨_,rfl,fun _ same => by cases same; exact forward⟩

theorem StatusCall.run_moves (call : StatusCall) {table : StatusTable} (ordered : PathMap.Ordered table) (path : Path) :
    PathMap.get? path table = PathMap.get? path (call.run table).2 ∨
      FileStatus.Moves (PathMap.get? path table) (PathMap.get? path (call.run table).2) := by
  cases granted : (call.run table).1 with
  | false => rw [run_refused granted]; exact .inl rfl
  | true =>
    cases same : call.path.same path with
    | false => rw [run_other same]; exact .inl rfl
    | true =>
      right
      rw [run_own ordered granted same,← PathMap.get?_same same]
      cases call with
      | claim claimed =>
        have fresh : PathMap.get? claimed table = none := claim_granted_iff.mp granted
        simp only [StatusCall.path,fresh]
        exact .claimed
      | advance moved status =>
        obtain ⟨current,found,forward⟩ := advance_granted_iff.mp granted
        simp only [StatusCall.path,found]
        exact .advanced forward

theorem destutter_related [DecidableEq α] {related : α → α → Prop} {first : α} {l : List α}
    (chain : (first :: l).IsChain fun a b => a = b ∨ related a b) :
    ∃ rest, (first :: l).destutter (· ≠ ·) = first :: rest ∧ (first :: rest).IsChain related := by
  rw [List.destutter_cons']
  induction l generalizing first with
  | nil => exact ⟨[],rfl,List.isChain_singleton first⟩
  | cons second others ih =>
    obtain ⟨joined,later⟩ := List.isChain_cons_cons.mp chain
    by_cases same : first = second
    · subst same
      rw [List.destutter'_cons_neg _ (by simp)]
      exact ih later
    · obtain ⟨rest,dropped,goesOn⟩ := ih later
      rw [List.destutter'_cons_pos _ same,dropped]
      exact ⟨second :: rest,rfl,List.isChain_cons_cons.mpr ⟨joined.resolve_left same,goesOn⟩⟩

-- Once a path has a status it never loses it, and each one is ahead of the last.
theorem FileStatus.moves_forward {current : FileStatus} {l : List (Option FileStatus)}
    (chain : (some current :: l).IsChain Moves) :
    ∃ values : List FileStatus, l = values.map some ∧ (current :: values).IsChain fun a b => a.rank < b.rank := by
  induction l generalizing current with
  | nil => exact ⟨[],rfl,List.isChain_singleton current⟩
  | cons next rest ih =>
    obtain ⟨move,later⟩ := List.isChain_cons_cons.mp chain
    cases move with
    | @advanced _ status forward =>
      obtain ⟨values,shown,goesOn⟩ := ih later
      exact ⟨status :: values,by rw [shown,List.map_cons],List.isChain_cons_cons.mpr ⟨forward,goesOn⟩⟩

namespace StatusTable

variable {calls : List StatusCall} {path : Path}

def after (calls : List StatusCall) : StatusTable := calls.foldl (fun table call => (call.run table).2) []

def answer (calls : List StatusCall) (call : StatusCall) : Bool := (call.run (after calls)).1

-- The values a path has from the start to the end of some calls, each noted when it
-- comes up.
def course (path : Path) (calls : List StatusCall) : List (Option FileStatus) :=
  ((calls.scanl (fun table call => (call.run table).2) []).map (PathMap.get? path)).destutter (· ≠ ·)

theorem after_concat (calls : List StatusCall) (call : StatusCall) :
    after (calls ++ [call]) = (call.run (after calls)).2 := by
  simp [after]

theorem after_ordered (calls : List StatusCall) : PathMap.Ordered (after calls) :=
  List.foldlRecOn calls _ List.Pairwise.nil fun _ ordered _ _ => StatusCall.run_ordered ordered

theorem unclaimed_iff : PathMap.get? path (after calls) = none ↔ ∀ call ∈ calls, call.claims path = false := by
  induction calls using List.reverseRecOn with
  | nil => simp [after,PathMap.get?]
  | append_singleton calls call ih =>
    have ordered := after_ordered calls
    rw [after_concat,List.forall_mem_append,List.forall_mem_singleton,← ih]
    constructor
    · intro absent
      have before : PathMap.get? path (after calls) = none := by
        rcases call.run_moves ordered path with stays | moves
        · rw [stays,absent]
        · obtain ⟨_,shown,_⟩ := moves.forward
          rw [absent] at shown
          cases shown
      refine ⟨before,?_⟩
      cases call with
      | advance => rfl
      | claim claimed =>
        rw [← Bool.not_eq_true]
        intro same
        have granted := StatusCall.claim_granted_iff.mpr ((PathMap.get?_same same).trans before)
        rw [StatusCall.run_own ordered granted same] at absent
        cases absent
    · rintro ⟨before,unclaimed⟩
      cases same : call.path.same path with
      | false => rw [StatusCall.run_other same,before]
      | true =>
        cases call with
        | claim claimed => exact absurd (unclaimed.symm.trans same) Bool.false_ne_true
        | advance moved status =>
          have absent : PathMap.get? moved (after calls) = none := (PathMap.get?_same same).trans before
          have refused : ((StatusCall.advance moved status).run (after calls)).1 = false := by
            rw [← Bool.not_eq_true,StatusCall.advance_granted_iff,absent]
            simp
          rw [StatusCall.run_refused refused,before]

theorem tables_chain (path : Path) (calls : List StatusCall) {table : StatusTable} (ordered : PathMap.Ordered table) :
    ∃ rest, (calls.scanl (fun table call => (call.run table).2) table).map (PathMap.get? path) =
        PathMap.get? path table :: rest ∧
      (PathMap.get? path table :: rest).IsChain fun a b => a = b ∨ FileStatus.Moves a b := by
  induction calls generalizing table with
  | nil => exact ⟨[],by rw [List.scanl_nil]; rfl,List.isChain_singleton _⟩
  | cons call others ih =>
    obtain ⟨rest,shown,chain⟩ := ih (call.run_ordered ordered)
    rw [List.scanl_cons,List.map_cons,shown]
    exact ⟨_,rfl,List.isChain_cons_cons.mpr ⟨call.run_moves ordered path,chain⟩⟩

theorem course_forward (path : Path) (calls : List StatusCall) : ∃ values : List FileStatus,
    course path calls = none :: values.map some ∧ (∀ first ∈ values.head?, first = .pending) ∧
      values.IsChain fun a b => a.rank < b.rank := by
  have start : PathMap.Ordered ([] : StatusTable) := List.Pairwise.nil
  obtain ⟨tables,shown,chain⟩ := tables_chain path calls start
  obtain ⟨rest,dropped,moves⟩ := destutter_related chain
  rw [course,shown,dropped]
  cases rest with
  | nil => exact ⟨[],rfl,by simp,List.isChain_nil⟩
  | cons first others =>
    obtain ⟨move,later⟩ := List.isChain_cons_cons.mp moves
    cases move with
    | claimed =>
      obtain ⟨values,same,forward⟩ := FileStatus.moves_forward later
      exact ⟨.pending :: values,by rw [same]; rfl,by simp,forward⟩

theorem terminal_stays {status : FileStatus} (terminal : status.isTerminal = true)
    (reached : PathMap.get? path (after calls) = some status) (later : List StatusCall) :
    PathMap.get? path (after (calls ++ later)) = some status := by
  induction later using List.reverseRecOn with
  | nil => rwa [List.append_nil]
  | append_singleton later call ih =>
    rw [← List.append_assoc,after_concat]
    rcases call.run_moves (after_ordered _) path with stays | moves
    · rw [← stays,ih]
    · obtain ⟨next,_,forward⟩ := moves.forward
      have beyond := forward status ih
      have top : next.rank ≤ 2 := by cases next <;> decide
      have far := status.isTerminal_iff.mp terminal
      omega

theorem course_same {other : Path} (same : path.same other = true) (calls : List StatusCall) :
    course path calls = course other calls := by
  have shown : (PathMap.get? path : StatusTable → _) = PathMap.get? other :=
    funext fun _ => PathMap.get?_same same
  rw [course,course,shown]

-- The first claim of a path is granted and no other one is; a path that nobody claimed is
-- left alone; from pending a status only goes forward, and the ends are for good. What is
-- refused changes nothing, and what is granted changes its own path alone.
theorem statuses_only_advance (calls : List StatusCall) :
    (∀ path, answer calls (.claim path) = true ↔ ∀ call ∈ calls, call.claims path = false) ∧
    (∀ path status, (∀ call ∈ calls, call.claims path = false) →
      StatusTable.advance path status (after calls) = (false,after calls)) ∧
    (∀ path status, answer calls (.advance path status) = true ↔
      ∃ current, PathMap.get? path (after calls) = some current ∧ current.rank < status.rank) ∧
    (∀ path, ∃ values : List FileStatus, course path calls = none :: values.map some ∧
      (∀ first ∈ values.head?, first = .pending) ∧ values.IsChain fun a b => a.rank < b.rank) ∧
    (∀ path status later, PathMap.get? path (after calls) = some status → status.isTerminal = true →
      PathMap.get? path (after (calls ++ later)) = some status) ∧
    (∀ path other, path.same other = true → course path calls = course other calls) ∧
    ∀ call : StatusCall,
      (answer calls call = false → after (calls ++ [call]) = after calls) ∧
      (answer calls call = true → PathMap.get? call.path (after (calls ++ [call])) = some call.status) ∧
      ∀ path, call.path.same path = false →
        PathMap.get? path (after (calls ++ [call])) = PathMap.get? path (after calls) := by
  refine ⟨?_,?_,?_,fun path => course_forward path calls,?_,fun _ _ same => course_same same calls,?_⟩
  · exact fun path => StatusCall.claim_granted_iff.trans unclaimed_iff
  · intro path status unclaimed
    simp only [StatusTable.advance,unclaimed_iff.mpr unclaimed]
  · exact fun path status => StatusCall.advance_granted_iff
  · exact fun path status later reached terminal => terminal_stays terminal reached later
  · intro call
    rw [after_concat]
    refine ⟨StatusCall.run_refused,fun granted => ?_,fun path other => StatusCall.run_other other⟩
    exact StatusCall.run_own (after_ordered calls) granted (Path.same_refl call.path)

theorem statuses_only_advance_spelled :
    let a : Path := ⟨"/a".toList⟩
    let dotted : Path := ⟨"/./a".toList⟩
    let b : Path := ⟨"/b".toList⟩
    let calls : List StatusCall := [.claim a,.claim dotted,.advance dotted .done,.advance a .compiled]
    answer calls (.claim dotted) = false ∧
    StatusTable.advance b .done (after calls) = (false,after calls) ∧
    course dotted calls = [none,some .pending,some .done] ∧ course dotted calls = course a calls ∧
    PathMap.get? a (after (calls ++ [.advance a .failed])) = some .done ∧
    PathMap.get? b (after (calls ++ [.claim dotted])) = none := by
  intro a dotted b calls
  obtain ⟨first,unclaimed,_,_,ends,same,changes⟩ := statuses_only_advance calls
  refine ⟨?_,unclaimed b .done (by decide),by decide,same dotted a (by decide),?_,?_⟩
  · rw [← Bool.not_eq_true,first]
    decide
  · exact ends a .done [.advance a .failed] (by decide) rfl
  · rw [(changes (.claim dotted)).2.2 b (by decide)]
    decide

end StatusTable
end ScenarioLang
