import Nullability.Proofs.Resolver.Sequel

/-!
# What an occasion does

Everything that an occasion does to documents and watches is derived from the course that it takes:
what is kept afterwards, which watches have come to those before, and which of those were stopped.
-/

namespace Nullability

lemma Program.watchOf?_eq {program : Program} {resolver : Nat} {provider : Provider}
    {documents : SideBySide}
    (h : program.resolvers[resolver]? = some (.layered provider documents)) (k : String) :
    program.watchOf? resolver k = (documents.get? k).map (fun entry => entry.watch) := by
  simp only [watchOf?, documents?, h, Option.bind_some]

namespace Occasion.Sequel

variable {occasion : Occasion} {resolver : Nat} {provider : Provider}
  {documents documents' : SideBySide}

/-- The watches of documents stay in order. -/
lemma tended (h : Sequel occasion resolver provider documents documents')
    (htended : occasion.program.Tended resolver provider documents) :
    (occasion.next resolver).Tended resolver provider documents' := by
  obtain ⟨hlayered, hstarters, hcourse, hcurrent, hbuilds⟩ := h
  cases hcourse with
  | read path map hparsed hvalid hnone hkept hwatches =>
    have hhandling : SideBySide.Handling documents.watches occasion.program.workspace
        documents'.watches (occasion.next resolver).workspace := by
      refine .started path ?_ hwatches
      rw [hkept, SideBySide.watches_insert hnone]
      exact List.perm_append_singleton _ _
    refine ⟨hlayered, hstarters, hhandling.balanced htended.balanced, ?_, hbuilds⟩
    intro k entry hget
    rw [hkept, OrderedMap.get?_insert] at hget
    split at hget
    · rename_i hk
      obtain rfl := Option.some.inj hget
      refine ⟨⟨path, 0⟩, ?_, hk⟩
      rw [hwatches]
      exact List.getElem?_concat_length
    · exact hhandling.isWatchOn hcurrent (htended.kept k entry hget)
  | freed taken hparsed hkept hwatches hstopped =>
    have hbalanced : SideBySide.Balanced (taken ++ documents'.watches)
        occasion.program.workspace := by
      refine ⟨?_, htended.balanced.stops⟩
      intro watch
      rw [← hwatches.count_eq]
      exact htended.balanced.count watch
    refine ⟨hlayered, hstarters, hbalanced.freed hstopped, ?_, hbuilds⟩
    intro k entry hget
    rw [hkept] at hget
    split at hget
    · cases hget
    · exact (htended.kept k entry hget).of_stopped hcurrent hstopped

/-- What is kept is what was just parsed, or was kept before and is still valid. -/
lemma watchOf?_next (h : Sequel occasion resolver provider documents documents')
    (htended : occasion.program.Tended resolver provider documents) (k : String) :
    (occasion.next resolver).watchOf? resolver k =
      if occasion.parsed? resolver provider = some k then
        some occasion.program.workspace.watches.length
      else if occasion.invalidates resolver k then none
      else occasion.program.watchOf? resolver k := by
  rw [Program.watchOf?_eq h.layered, Program.watchOf?_eq htended.layered]
  cases h.course with
  | read path map hparsed hvalid hnone hkept hwatches =>
    rw [hkept, OrderedMap.get?_insert, hparsed, hvalid]
    simp only [Option.some.injEq]
    split <;> rfl
  | freed taken hparsed hkept hwatches hstopped =>
    rw [hkept, hparsed]
    split <;> rfl

/-- A document that is parsed was not kept before, and is not invalidated at the same time. -/
lemma of_parsed (h : Sequel occasion resolver provider documents documents')
    (htended : occasion.program.Tended resolver provider documents) {k : String}
    (hparsed : occasion.parsed? resolver provider = some k) :
    occasion.program.watchOf? resolver k = none ∧ occasion.invalidates resolver k = false := by
  rw [Program.watchOf?_eq htended.layered]
  cases h.course with
  | read path map hread hvalid hnone hkept hwatches =>
    rw [hparsed] at hread
    obtain rfl := Option.some.inj hread
    exact ⟨by rw [hnone, Option.map_none], hvalid _⟩
  | freed taken hnone hkept hwatches hstopped =>
    rw [hparsed] at hnone
    cases hnone

/-- An eviction is the invalidation of a document that is kept. -/
lemma evicts_eq (h : Sequel occasion resolver provider documents documents')
    (htended : occasion.program.Tended resolver provider documents) (k : String) :
    occasion.evicts resolver k =
      ((occasion.program.watchOf? resolver k).isSome && occasion.invalidates resolver k) := by
  rw [evicts, h.watchOf?_next htended]
  by_cases hparsed : occasion.parsed? resolver provider = some k
  · rw [(h.of_parsed htended hparsed).1]
    rfl
  · rw [if_neg hparsed]
    cases hinvalid : occasion.invalidates resolver k with
    | true => rfl
    | false => cases occasion.program.watchOf? resolver k <;> rfl

/-- There is a new watch for a document that is parsed. -/
lemma watchedKeys_next (h : Sequel occasion resolver provider documents documents') :
    (occasion.next resolver).workspace.watchedKeys =
      occasion.program.workspace.watchedKeys ++ (occasion.parsed? resolver provider).toList := by
  have hkey : ∀ path, SideBySide.key (occasion.next resolver).workspace.tree path =
      SideBySide.key occasion.program.workspace.tree path := by
    intro path
    rw [SideBySide.key, SideBySide.key, FileTree.currentText, FileTree.currentText, h.current]
  simp only [Workspace.watchedKeys, hkey]
  cases h.course with
  | read path map hparsed hvalid hnone hkept hwatches =>
    rw [hwatches, hparsed, List.map_append, hkey]
    rfl
  | freed taken hparsed hkept hwatches hstopped =>
    rw [hparsed, Option.toList_none, List.append_nil]
    apply List.ext_getElem?
    intro n
    rw [List.getElem?_map, List.getElem?_map, hstopped, Option.map_map]
    rfl

/-- An eviction stops the watch on what it takes out. -/
lemma stopped_of_evicts (h : Sequel occasion resolver provider documents documents')
    (htended : occasion.program.Tended resolver provider documents) {k : String} {watch : Nat}
    (hevicts : occasion.evicts resolver k = true)
    (hwatch : occasion.program.watchOf? resolver k = some watch) :
    ∃ path, SideBySide.key occasion.program.workspace.tree path = k ∧
      occasion.program.workspace.watches[watch]? = some ⟨path, 0⟩ ∧
      (occasion.next resolver).workspace.watches[watch]? = some ⟨path, 1⟩ := by
  rw [h.evicts_eq htended, Bool.and_eq_true] at hevicts
  obtain ⟨-, hinvalid⟩ := hevicts
  rw [Program.watchOf?_eq htended.layered] at hwatch
  obtain ⟨entry, hget, rfl⟩ := Option.map_eq_some_iff.1 hwatch
  have hmem : entry.watch ∈ documents.watches :=
    (documents.mem_watches_iff entry.watch).2 ⟨k, entry, hget, rfl⟩
  have hlive := (htended.balanced.isLive_iff entry.watch).2 hmem
  obtain ⟨⟨path, stops⟩, hfound, hk⟩ := htended.kept k entry hget
  have hstops : stops = 0 := by
    rw [Workspace.isLive, hfound] at hlive
    exact of_decide_eq_true hlive
  subst hstops
  refine ⟨path, hk, hfound, ?_⟩
  cases h.course with
  | read other map hparsed hvalid hnone hkept hwatches =>
    rw [hvalid k] at hinvalid
    cases hinvalid
  | freed taken hparsed hkept hwatches hstopped =>
    -- The watch does not go with another document, so it is among those that are stopped.
    have hgone : entry.watch ∉ documents'.watches := by
      intro hstays
      obtain ⟨k', entry', hget', hsame⟩ := (documents'.mem_watches_iff entry.watch).1 hstays
      rw [hkept] at hget'
      split at hget'
      · cases hget'
      · rename_i hvalid
        obtain ⟨found', hfound', hk'⟩ := htended.kept k' entry' hget'
        rw [hsame, hfound] at hfound'
        obtain rfl := Option.some.inj hfound'
        obtain rfl : k = k' := hk.symm.trans hk'
        exact hvalid hinvalid
    have hcount := htended.balanced.count entry.watch
    rw [hwatches.count_eq, List.count_append, List.count_eq_zero.2 hgone, hlive, if_pos rfl]
      at hcount
    have hone : taken.count entry.watch = 1 := hcount
    rw [hstopped, hfound, Option.map_some, hone]

/-- Nothing happens to the other watches. -/
lemma eq_of_not_evicts (h : Sequel occasion resolver provider documents documents')
    (htended : occasion.program.Tended resolver provider documents) {watch : Nat} {found : Watch}
    (hfound : occasion.program.workspace.watches[watch]? = some found)
    (hother : ∀ k, occasion.evicts resolver k = true →
      occasion.program.watchOf? resolver k ≠ some watch) :
    (occasion.next resolver).workspace.watches[watch]? = some found := by
  cases h.course with
  | read path map hparsed hvalid hnone hkept hwatches =>
    rw [hwatches, List.getElem?_append_left (List.getElem?_eq_some_iff.1 hfound).1]
    exact hfound
  | freed taken hparsed hkept hwatches hstopped =>
    have hspared : watch ∉ taken := by
      intro htaken
      have hmem : watch ∈ documents.watches := by
        rw [hwatches.mem_iff]
        exact List.mem_append_left _ htaken
      obtain ⟨k, entry, hget, hwatch⟩ := (documents.mem_watches_iff watch).1 hmem
      have hwatchOf : occasion.program.watchOf? resolver k = some watch := by
        rw [Program.watchOf?_eq htended.layered, hget, Option.map_some, hwatch]
      have hvalid : occasion.invalidates resolver k = false := by
        cases hinvalid : occasion.invalidates resolver k with
        | false => rfl
        | true =>
          refine absurd hwatchOf (hother k ?_)
          rw [h.evicts_eq htended, hwatchOf, hinvalid]
          rfl
      have hget' : documents'.get? k = some entry := by
        rw [hkept, hvalid]
        exact hget
      have hstays : watch ∈ documents'.watches :=
        (documents'.mem_watches_iff watch).2 ⟨k, entry, hget', hwatch⟩
      -- It cannot be among those that are stopped and among those that are not.
      have hcount := htended.balanced.count watch
      rw [hwatches.count_eq, List.count_append] at hcount
      have htwo := List.count_pos_iff.2 htaken
      have htwo' := List.count_pos_iff.2 hstays
      split at hcount
      · omega
      · omega
    rw [hstopped, hfound, Option.map_some, List.count_eq_zero.2 hspared]
    rfl

end Occasion.Sequel

end Nullability
