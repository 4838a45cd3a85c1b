import Mathlib.Data.Finset.Card
import ScenarioLang.Proofs.ImportGraph.Outline

namespace ScenarioLang

namespace Specification

variable {spec : Specification} {docs others : List Document} {doc held : Document} {path : Path} {position : Nat}

def place (doc : Document) : List Component := (key doc).components

def about (path : Path) (doc : Document) : Bool := (key doc).same path

def inserted (docs : List Document) : Specification := docs.foldl insert empty

theorem inserted_concat (docs : List Document) (doc : Document) : inserted (docs ++ [doc]) = (inserted docs).insert doc :=
  List.foldl_concat ..

theorem about_iff : about path doc = true ↔ place doc = path.components := Path.same_iff

-- The index has an entry for each document, the latest first, with the place where the
-- document stands. No two documents have one key.
structure Indexed (spec : Specification) : Prop where
  entries : spec.positions.map (fun entry => (entry.1.components,entry.2)) = (spec.documents.map place).zipIdx.reverse
  once : (spec.documents.map place).Nodup

theorem Indexed.position?_iff (indexed : spec.Indexed) :
    spec.position? path = some position ↔ (spec.documents.map place)[position]? = some path.components := by
  have lookup : spec.position? path = ((spec.positions.map fun entry => (entry.1.components,entry.2)).find?
      fun entry => decide (entry.1 = path.components)).map Prod.snd := by
    rw [List.find?_map,Option.map_map]
    rfl
  rw [lookup,indexed.entries]
  constructor
  · intro found
    obtain ⟨⟨components,number⟩,entry,rfl⟩ := Option.map_eq_some_iff.mp found
    have same : components = path.components := by simpa using List.find?_some entry
    have member := List.mem_of_find?_eq_some entry
    rw [List.mem_reverse,List.mem_zipIdx_iff_getElem?,same] at member
    exact member
  · intro stands
    have entry : (path.components,position) ∈ (spec.documents.map place).zipIdx.reverse := by
      rw [List.mem_reverse,List.mem_zipIdx_iff_getElem?]
      exact stands
    obtain ⟨⟨components,number⟩,found⟩ := Option.isSome_iff_exists.mp
      (List.find?_isSome.mpr ⟨_,entry,by simp⟩ :
        ((spec.documents.map place).zipIdx.reverse.find? fun entry => decide (entry.1 = path.components)).isSome = true)
    rw [found]
    have same : components = path.components := by simpa using List.find?_some found
    have member := List.mem_of_find?_eq_some found
    rw [List.mem_reverse,List.mem_zipIdx_iff_getElem?,same] at member
    have inside := (List.getElem?_eq_some_iff.mp stands).1
    exact congrArg some ((List.getElem?_inj inside indexed.once).mp (stands.trans member.symm)).symm

theorem Indexed.position?_document (indexed : spec.Indexed) : spec.position? path = some position ↔
    ∃ doc, spec.documents[position]? = some doc ∧ about path doc = true := by
  rw [indexed.position?_iff,List.getElem?_map,Option.map_eq_some_iff]
  simp only [about_iff]

theorem Indexed.position?_none (indexed : spec.Indexed) (fresh : spec.position? path = none) :
    path.components ∉ spec.documents.map place := by
  intro member
  obtain ⟨i,stands⟩ := List.mem_iff_getElem?.mp member
  rw [indexed.position?_iff.mpr stands] at fresh
  cases fresh

theorem Indexed.mem_iff (indexed : spec.Indexed) : doc ∈ spec.documents ↔ spec.get? (key doc) = some doc := by
  constructor
  · intro member
    obtain ⟨i,stands⟩ := List.mem_iff_getElem?.mp member
    rw [get?,indexed.position?_document.mpr ⟨doc,stands,Path.same_refl _⟩]
    exact stands
  · intro found
    obtain ⟨i,_,stands⟩ := Option.bind_eq_some_iff.mp found
    exact List.mem_of_getElem? stands

-- What the documents that came in make of a specification: each key once, in the order
-- in which the keys first came, with the last document of the key.
structure Arranged (docs : List Document) (spec : Specification) : Prop extends spec.Indexed where
  listed : spec.documents.map place = (docs.map place).eraseDups
  latest : ∀ path, spec.get? path = (docs.filter (about path)).getLast?

theorem empty_arranged : Arranged [] empty := ⟨⟨rfl,List.nodup_nil⟩,rfl,fun _ => rfl⟩

theorem filter_concat (path : Path) (docs : List Document) (doc : Document) :
    ((docs ++ [doc]).filter (about path)).getLast? =
      if about path doc = true then some doc else (docs.filter (about path)).getLast? := by
  rw [List.filter_append,List.filter_singleton]
  cases about path doc with
  | true => exact List.getLast?_concat
  | false => simp

theorem eraseDups_concat (known : List (List Component)) (next : List Component) :
    (known ++ [next]).eraseDups = if next ∈ known then known.eraseDups else known.eraseDups ++ [next] := by
  rw [List.eraseDups_append]
  by_cases old : next ∈ known
  · have none : [next].removeAll known = [] := by
      apply List.filter_eq_nil_iff.mpr
      intro c member
      rw [List.mem_singleton.mp member]
      simp [old]
    rw [none,if_pos old,List.eraseDups_nil,List.append_nil]
  · have kept : [next].removeAll known = [next] := by
      apply List.filter_eq_self.mpr
      intro c member
      rw [List.mem_singleton.mp member]
      simp [old]
    rw [kept,if_neg old]
    rfl

theorem Arranged.replace (arranged : Arranged docs spec) (known : spec.position? (key doc) = some position) :
    Arranged (docs ++ [doc]) (spec.insert doc) := by
  have stands := arranged.position?_iff.mp known
  have insert_eq : spec.insert doc = { spec with documents := spec.documents.set position doc } := by
    simp only [insert,known]
  obtain ⟨bound,own⟩ := List.getElem?_eq_some_iff.mp stands
  have inside : position < spec.documents.length := by simpa using bound
  have places : (spec.documents.set position doc).map place = spec.documents.map place := by
    rw [List.map_set,place,← own,List.set_getElem_self]
  have indexed : Indexed { spec with documents := spec.documents.set position doc } :=
    ⟨by rw [places]; exact arranged.entries,by rw [places]; exact arranged.once⟩
  have old : place doc ∈ docs.map place := by
    rw [← List.mem_eraseDups,← arranged.listed]
    exact List.mem_of_getElem? stands
  rw [insert_eq]
  refine ⟨indexed,?_,?_⟩
  · rw [places,arranged.listed,List.map_append,List.map_singleton,eraseDups_concat,if_pos old]
  · intro path
    rw [filter_concat,← arranged.latest]
    change (spec.position? path).bind (fun position' => (spec.documents.set position doc)[position']?) = _
    split
    · rename_i same
      rw [arranged.position?_iff.mpr (stands.trans (congrArg some (about_iff.mp same)))]
      exact List.getElem?_set_self inside
    · rename_i apart
      rw [get?]
      cases found : spec.position? path with
      | none => rfl
      | some other =>
        have there := arranged.position?_iff.mp found
        have different : position ≠ other := by
          rintro rfl
          exact apart (about_iff.mpr (Option.some.inj (stands.symm.trans there)))
        exact List.getElem?_set_ne different

theorem Arranged.extend (arranged : Arranged docs spec) (fresh : spec.position? (key doc) = none) :
    Arranged (docs ++ [doc]) (spec.insert doc) := by
  have new := arranged.position?_none fresh
  have insert_eq : spec.insert doc = ⟨spec.documents ++ [doc],(key doc,spec.documents.length) :: spec.positions⟩ := by
    simp only [insert,fresh]
  have places : (spec.documents ++ [doc]).map place = spec.documents.map place ++ [place doc] := List.map_append
  have indexed : Indexed ⟨spec.documents ++ [doc],(key doc,spec.documents.length) :: spec.positions⟩ := by
    refine ⟨?_,?_⟩
    · rw [places,List.zipIdx_append,List.map_cons,arranged.entries]
      simp [place]
    · rw [places]
      rw [← List.concat_eq_append]
      exact List.Nodup.concat new arranged.once
  rw [insert_eq]
  refine ⟨indexed,?_,?_⟩
  · have unknown : place doc ∉ docs.map place := by
      rwa [← List.mem_eraseDups,← arranged.listed]
    rw [places,arranged.listed,List.map_append,List.map_singleton,eraseDups_concat,if_neg unknown]
  · intro path
    rw [filter_concat,← arranged.latest]
    split
    · rename_i same
      have there := List.getElem?_concat_length (a := doc) (l := spec.documents)
      rw [get?,indexed.position?_document.mpr ⟨doc,there,same⟩]
      exact there
    · rename_i apart
      have lookup : position? ⟨spec.documents ++ [doc],(key doc,spec.documents.length) :: spec.positions⟩ path =
          spec.position? path := by
        have other : (key doc).same path = false := by simpa [about] using apart
        simp [position?,other]
      rw [get?,get?,lookup]
      cases found : spec.position? path with
      | none => rfl
      | some other =>
        obtain ⟨held,there,_⟩ := arranged.position?_document.mp found
        exact List.getElem?_append_left (List.getElem?_eq_some_iff.mp there).1

theorem Arranged.insert (arranged : Arranged docs spec) (doc : Document) : Arranged (docs ++ [doc]) (spec.insert doc) := by
  cases known : spec.position? (key doc) with
  | some position => exact arranged.replace known
  | none => exact arranged.extend known

theorem inserted_arranged (docs : List Document) : Arranged docs (inserted docs) := by
  induction docs using List.reverseRecOn with
  | nil => exact empty_arranged
  | append_singleton docs doc ih =>
    rw [inserted_concat]
    exact ih.insert doc

theorem Arranged.mem_iff_latest (arranged : Arranged docs spec) :
    doc ∈ spec.documents ↔ (docs.filter (about (key doc))).getLast? = some doc := by
  rw [arranged.mem_iff,arranged.latest]

theorem filter_swap {a b : Document} (apart : place a ≠ place b) (front back : List Document) (path : Path) :
    (front ++ a :: b :: back).filter (about path) = (front ++ b :: a :: back).filter (about path) := by
  rw [List.filter_append,List.filter_append]
  congr 1
  cases first : about path a with
  | false => simp [List.filter_cons,first]
  | true =>
    have second : about path b = false := by
      rw [← Bool.not_eq_true]
      intro also
      exact apart ((about_iff.mp first).trans (about_iff.mp also).symm)
    simp [first,second]

structure InsertionOrdered (docs : List Document) (spec : Specification) : Prop where
  mapped : ∀ doc ∈ docs, ∃ position held, spec.position? (key doc) = some position ∧
    spec.documents[position]? = some held ∧ (key held).same (key doc) = true
  exact : ∀ path position, spec.position? path = some position ↔
    ∃ doc, spec.documents[position]? = some doc ∧ (key doc).same path = true
  numbered : (spec.positions.map Prod.snd).Perm (List.range spec.documents.length)
  once : Path.Apart (spec.positions.map Prod.fst)
  length : spec.documents.length = (docs.map place).toFinset.card
  listed : spec.documents.map place = (docs.map place).eraseDups
  latest : ∀ path, spec.get? path = (docs.filter (about path)).getLast?
  contains : ∀ path, spec.contains path = (spec.get? path).isSome

theorem Indexed.numbers (indexed : spec.Indexed) :
    (spec.positions.map Prod.snd).Perm (List.range spec.documents.length) := by
  have numbers := congrArg (List.map Prod.snd) indexed.entries
  rw [List.map_map,List.map_reverse,List.zipIdx_map_snd,List.length_map,← List.range_eq_range'] at numbers
  change spec.positions.map Prod.snd = _ at numbers
  rw [numbers]
  exact List.reverse_perm _

theorem Indexed.keys_apart (indexed : spec.Indexed) : Path.Apart (spec.positions.map Prod.fst) := by
  have keys := congrArg (List.map Prod.fst) indexed.entries
  rw [List.map_map,List.map_reverse,List.zipIdx_map_fst] at keys
  change spec.positions.map (Path.components ∘ Prod.fst) = _ at keys
  rw [Path.Apart,List.map_map,keys]
  exact List.nodup_reverse.mpr indexed.once

theorem Arranged.mem_places (arranged : Arranged docs spec) (components : List Component) :
    components ∈ spec.documents.map place ↔ components ∈ docs.map place := by
  rw [arranged.listed,List.mem_eraseDups]

theorem Arranged.insertionOrdered (arranged : Arranged docs spec) : InsertionOrdered docs spec where
  mapped doc member := by
    have place := (arranged.mem_places _).mpr (List.mem_map_of_mem member)
    obtain ⟨position,stands⟩ := List.mem_iff_getElem?.mp place
    have found := arranged.position?_iff.mpr stands
    obtain ⟨held,there,same⟩ := arranged.position?_document.mp found
    exact ⟨position,held,found,there,same⟩
  exact path position := arranged.position?_document
  numbered := arranged.numbers
  once := arranged.keys_apart
  length := by
    have keys : (spec.documents.map place).toFinset = (docs.map place).toFinset := by
      apply Finset.ext
      intro components
      rw [List.mem_toFinset,List.mem_toFinset,arranged.mem_places]
    rw [← keys,List.toFinset_card_of_nodup arranged.once,List.length_map]
  listed := arranged.listed
  latest := arranged.latest
  contains path := by
    rw [Specification.contains,get?]
    cases found : spec.position? path with
    | none => rfl
    | some position =>
      obtain ⟨held,there,_⟩ := arranged.position?_document.mp found
      rw [Option.bind_some,there]
      rfl

-- The index and the list of documents stay in step whatever comes in, and the graph of the
-- imports tells nothing of the order in which documents with different keys came.
theorem insertion_ordered :
    (∀ docs, InsertionOrdered docs (inserted docs)) ∧
    ∀ docs others, (∀ path, docs.filter (about path) = others.filter (about path)) →
      (ImportGraph.ofSpecification (inserted docs)).outline = (ImportGraph.ofSpecification (inserted others)).outline := by
  refine ⟨fun docs => (inserted_arranged docs).insertionOrdered,?_⟩
  intro docs others same
  apply ImportGraph.ofSpecification_outline
  intro doc
  rw [(inserted_arranged docs).mem_iff_latest,(inserted_arranged others).mem_iff_latest,same]

theorem insertion_ordered_spelled :
    let importing (path value : String) : Document :=
      { Document.ofFile ⟨⟨path.toList⟩,[]⟩ with imports := [⟨.importPath,⟨1,1⟩,[],.value value.toList⟩] }
    let docs := [importing "/b//c" "d",importing "/a" "b/c",importing "/b/./c" "../a",Document.empty]
    let others := [importing "/a" "b/c",importing "/b//c" "d",importing "/b/./c" "../a",Document.empty]
    (∀ path, docs.filter (about path) = others.filter (about path)) ∧
    (ImportGraph.ofSpecification (inserted docs)).outline = (ImportGraph.ofSpecification (inserted others)).outline ∧
    (inserted docs).documents.map place ≠ (inserted others).documents.map place := by
  intro importing docs others
  have same : ∀ path, docs.filter (about path) = others.filter (about path) :=
    filter_swap (by decide) [] [importing "/b/./c" "../a",Document.empty]
  exact ⟨same,insertion_ordered.2 docs others same,by decide⟩

end Specification
end ScenarioLang
