import Mathlib.Data.List.Count
import Mathlib.Data.List.Flatten
import Nullability.Proofs.SideBySide.Traffic

/-!
# Who owns a watch

A watch that was started and not stopped belongs to exactly one owner: to the document that it was
started for, once that is kept, or to the lookup, eviction or disposal that has it in hand. A step
passes watches on without losing one, or starts one for its party, or stops one that its party has
in hand (`Handling`). So, however the steps of all parties are interleaved, every kept document has
a watch of its own, no watch is stopped twice, and none is left over when everybody has come to an
end (`Traffic.oneToOne_run`).
-/

namespace Nullability

/-- Whether a watch was started and not stopped. -/
def Workspace.isLive (w : Workspace) (watch : Nat) : Bool :=
  w.watches[watch]?.any (fun found => found.stops = 0)

lemma Workspace.getElem?_stopWatch (w : Workspace) (watch n : Nat) :
    (w.stopWatch watch).watches[n]? =
      w.watches[n]?.map (fun found => ⟨found.path, found.stops + if watch = n then 1 else 0⟩) := by
  rw [stopWatch, List.getElem?_modify]
  cases w.watches[n]? with
  | none => rfl
  | some found => by_cases h : watch = n <;> simp [h]

namespace SideBySide

/-- The watches that go with the documents. -/
def watches (documents : SideBySide) : List Nat :=
  documents.entries.map (fun entry => entry.2.watch)

/-- The watches that a party has in hand. -/
def Party.watches : Party → List Nat
  | .looking ⟨_, .watched entry⟩ => [entry.watch]
  | .looking ⟨_, .outrun _ watch⟩ => [watch]
  | .evicting ⟨_, _, .removed entry⟩ => [entry.watch]
  | .disposing (.removed entry) => [entry.watch]
  | _ => []

/-- Whether a watch is on a document with a key. -/
def IsWatchOn (w : Workspace) (watch : Nat) (k : String) : Prop :=
  ∃ found, w.watches[watch]? = some found ∧ key w.tree found.path = k

/-- What can happen to watches and to the list of those that have an owner. -/
inductive Handling (owned : List Nat) (w : Workspace) (owned' : List Nat) (w' : Workspace) :
    Prop where
  /-- They pass from owner to owner. -/
  | passed (howned : owned'.Perm owned) (hwatches : w'.watches = w.watches)
  /-- A new one gets an owner. -/
  | started (path : Path) (howned : owned'.Perm (w.watches.length :: owned))
    (hwatches : w'.watches = w.watches ++ [⟨path, 0⟩])
  /-- One that has an owner is stopped, and has none any more. -/
  | stopped (watch : Nat) (howned : owned.Perm (watch :: owned'))
    (hwatches : w'.watches = (w.stopWatch watch).watches)

/-- Those who have no part in it keep what they own. -/
lemma Handling.frame {owned owned' all all' : List Nat} {w w' : Workspace}
    (h : Handling owned w owned' w') (others : List Nat) (hall : all.Perm (owned ++ others))
    (hall' : all'.Perm (owned' ++ others)) : Handling all w all' w' := by
  cases h with
  | passed howned hwatches =>
    exact .passed (hall'.trans ((howned.append_right others).trans hall.symm)) hwatches
  | started path howned hwatches =>
    have hcons := hall'.trans (howned.append_right others)
    exact .started path (hcons.trans (hall.symm.cons _)) hwatches
  | stopped watch howned hwatches =>
    have hcons := hall.trans (howned.append_right others)
    exact .stopped watch (hcons.trans (hall'.symm.cons _)) hwatches

/-! ## Steps -/

section Steps

variable {documents : SideBySide} {w : Workspace}

lemma watches_insert {k : String} {entry : Entry} (h : documents.get? k = none) :
    watches (documents.insert k entry) = documents.watches ++ [entry.watch] := by
  rw [watches, OrderedMap.entries_insert_of_get?_eq_none h, List.map_append]
  rfl

lemma watches_perm_erase {k : String} {entry : Entry} (h : documents.get? k = some entry) :
    documents.watches.Perm (entry.watch :: watches (documents.erase k)) :=
  (OrderedMap.entries_perm_erase h).map (fun kept : String × Entry => kept.2.watch)

lemma watches_of_popLast? {k : String} {entry : Entry} {rest : SideBySide}
    (h : documents.popLast? = some ((k, entry), rest)) :
    documents.watches = rest.watches ++ [entry.watch] := by
  rw [watches, OrderedMap.entries_of_popLast? h, List.map_append]
  rfl

lemma perm_in_hand (watch : Nat) (owned : List Nat) :
    (owned ++ [watch]).Perm (watch :: (owned ++ [])) := by
  rw [List.append_nil]
  exact List.perm_append_singleton watch owned

/-- A step of a party handles watches, and leaves those of the other parties alone. -/
lemma Party.Step.handling {documents' : SideBySide} {w' : Workspace} {party party' : Party}
    (h : party.Step documents w party' documents' w') :
    Handling (documents.watches ++ party.watches) w (documents'.watches ++ party'.watches) w' := by
  cases h with
  | watch => exact .started _ (perm_in_hand w.watches.length documents.watches) rfl
  | keep hnone =>
    refine .passed ?_ rfl
    simp only [watches_insert hnone, Party.watches, List.append_nil]
    exact .refl _
  | yield => exact .stopped _ (perm_in_hand _ documents.watches) rfl
  | evict hkept =>
    refine .passed ?_ rfl
    have herase := watches_perm_erase hkept
    simp only [Party.watches, List.append_nil]
    exact List.perm_append_comm.trans herase.symm
  | unwatch => exact .stopped _ (perm_in_hand _ documents.watches) rfl
  | pop hpop =>
    refine .passed ?_ rfl
    rw [watches_of_popLast? hpop]
    simp [Party.watches]
  | discard => exact .stopped _ (perm_in_hand _ documents.watches) rfl
  | _ => exact .passed (.refl _) rfl

lemma Party.watches_refuse (party : Party) (failure : Failure) :
    (party.refuse failure).watches = party.watches := by
  cases party with
  | looking lookup =>
    obtain ⟨path, stage⟩ := lookup
    cases stage <;> rfl
  | evicting eviction => rfl
  | disposing disposal => rfl

/-- A lookup that watches its document cannot be refused anything. -/
lemma Party.eq_of_refuse_eq_watched {party : Party} {failure : Failure} {path : Path}
    {entry : Entry} (h : party.refuse failure = .looking ⟨path, .watched entry⟩) :
    .looking ⟨path, .watched entry⟩ = party := by
  cases party with
  | looking lookup =>
    obtain ⟨own, stage⟩ := lookup
    cases stage with
    | missed => cases h
    | read map => cases h
    | _ => exact h.symm
  | evicting eviction => cases h
  | disposing disposal => cases h

lemma Party.watches_of_isFinished {party : Party} (h : party.isFinished = true) :
    party.watches = [] := by
  cases party with
  | looking lookup =>
    obtain ⟨path, stage⟩ := lookup
    cases stage with
    | found entry => rfl
    | failed failure => rfl
    | _ => cases h
  | evicting eviction =>
    obtain ⟨path, kind, stage⟩ := eviction
    cases stage with
    | done => rfl
    | _ => cases h
  | disposing disposal =>
    cases disposal with
    | done => rfl
    | failed failure => rfl
    | _ => cases h

end Steps

/-! ## The invariant -/

/-- The watches that have an owner have one each and are just the live ones; no watch was stopped
twice. -/
structure Balanced (owned : List Nat) (w : Workspace) : Prop where
  count : ∀ watch, owned.count watch = if w.isLive watch then 1 else 0
  stops : ∀ watch ∈ w.watches, watch.stops ≤ 1

section Balance

variable {owned owned' : List Nat} {w w' : Workspace}

lemma Balanced.isLive_iff (h : Balanced owned w) (watch : Nat) :
    w.isLive watch = true ↔ watch ∈ owned := by
  rw [← List.count_pos_iff, h.count]
  cases w.isLive watch with
  | true => simp
  | false => simp

lemma isLive_congr (h : w'.watches = w.watches) (watch : Nat) :
    w'.isLive watch = w.isLive watch := by
  rw [Workspace.isLive, Workspace.isLive, h]

lemma isLive_started {path : Path} (h : w'.watches = w.watches ++ [⟨path, 0⟩]) (watch : Nat) :
    w'.isLive watch = (w.isLive watch || watch == w.watches.length) := by
  rw [Workspace.isLive, Workspace.isLive, h]
  rcases Nat.lt_trichotomy watch w.watches.length with hlt | heq | hgt
  · have hne : (watch == w.watches.length) = false := by simpa using hlt.ne
    rw [List.getElem?_append_left hlt, hne, Bool.or_false]
  · subst heq
    simp
  · have hnone : (w.watches ++ [⟨path, 0⟩])[watch]? = none := by
      rw [List.getElem?_eq_none_iff, List.length_append, List.length_singleton]
      exact hgt
    have hnone' : w.watches[watch]? = none := List.getElem?_eq_none hgt.le
    rw [hnone, hnone']
    simpa using hgt.ne'

lemma isLive_stopped {watch : Nat} (h : w'.watches = (w.stopWatch watch).watches) (other : Nat) :
    w'.isLive other = (w.isLive other && other != watch) := by
  rw [Workspace.isLive, Workspace.isLive, h, Workspace.getElem?_stopWatch]
  by_cases hother : watch = other
  · cases w.watches[other]? with
    | none => rfl
    | some found => simp [hother]
  · have hne : (other != watch) = true := by simpa using fun e : other = watch => hother e.symm
    simp [hother, hne]

/-- Whatever happens to watches, each live one has an owner, and no one else has. -/
lemma Handling.balanced (h : Handling owned w owned' w') (hbalanced : Balanced owned w) :
    Balanced owned' w' := by
  cases h with
  | passed howned hwatches =>
    refine ⟨?_, ?_⟩
    · intro watch
      rw [howned.count_eq, isLive_congr hwatches]
      exact hbalanced.count watch
    · rw [hwatches]
      exact hbalanced.stops
  | started path howned hwatches =>
    refine ⟨?_, ?_⟩
    · intro watch
      have hnew : w.isLive w.watches.length = false := by
        rw [Workspace.isLive, List.getElem?_eq_none le_rfl]
        rfl
      rw [howned.count_eq, List.count_cons, isLive_started hwatches, hbalanced.count]
      by_cases hwatch : watch = w.watches.length
      · subst hwatch
        simp [hnew]
      · have hne : w.watches.length ≠ watch := fun e => hwatch e.symm
        simp [hwatch, hne]
    · intro watch hmem
      rw [hwatches, List.mem_append, List.mem_singleton] at hmem
      rcases hmem with hold | rfl
      · exact hbalanced.stops watch hold
      · exact Nat.zero_le 1
  | stopped watch howned hwatches =>
    -- The one that is stopped was live, since it had an owner.
    have hlive : w.isLive watch = true := by
      rw [hbalanced.isLive_iff, howned.mem_iff]
      exact List.mem_cons_self
    refine ⟨?_, ?_⟩
    · intro other
      have hcount := hbalanced.count other
      rw [howned.count_eq, List.count_cons] at hcount
      rw [isLive_stopped hwatches]
      by_cases hother : other = watch
      · subst hother
        simp [hlive] at hcount ⊢
        omega
      · have hne : watch ≠ other := fun e => hother e.symm
        simpa [hother, hne] using hcount
    · intro other hmem
      rw [hwatches] at hmem
      obtain ⟨n, hn⟩ := List.mem_iff_getElem?.1 hmem
      rw [Workspace.getElem?_stopWatch] at hn
      obtain ⟨found, hfound, rfl⟩ := Option.map_eq_some_iff.1 hn
      by_cases hwatch : watch = n
      · rw [Workspace.isLive, hwatch, hfound] at hlive
        have hstops : found.stops = 0 := of_decide_eq_true hlive
        simp [hstops, hwatch]
      · simpa [hwatch] using hbalanced.stops found (List.mem_of_getElem? hfound)

lemma Handling.isWatchOn (h : Handling owned w owned' w') (htree : w'.tree.current = w.tree.current)
    {watch : Nat} {k : String} (hon : IsWatchOn w watch k) : IsWatchOn w' watch k := by
  obtain ⟨found, hfound, hk⟩ := hon
  have hkey : key w'.tree found.path = k := by
    rw [key, FileTree.currentText, htree]
    exact hk
  cases h with
  | passed howned hwatches => exact ⟨found, hwatches ▸ hfound, hkey⟩
  | started path howned hwatches =>
    have hlt := (List.getElem?_eq_some_iff.1 hfound).1
    refine ⟨found, ?_, hkey⟩
    rw [hwatches, List.getElem?_append_left hlt]
    exact hfound
  | stopped other howned hwatches =>
    refine ⟨⟨found.path, found.stops + if other = watch then 1 else 0⟩, ?_, hkey⟩
    rw [hwatches, Workspace.getElem?_stopWatch, hfound]
    rfl

end Balance

namespace Traffic

/-- The watches that have an owner. -/
def owned (traffic : Traffic) : List Nat :=
  traffic.documents.watches ++ traffic.parties.flatMap Party.watches

/-- The watches are balanced; the watch of a kept document, and of one that is about to be kept, is
on that document. -/
structure Orderly (traffic : Traffic) : Prop where
  balanced : Balanced traffic.owned traffic.workspace
  kept : ∀ k entry, traffic.documents.get? k = some entry →
    IsWatchOn traffic.workspace entry.watch k
  watched : ∀ path entry, .looking ⟨path, .watched entry⟩ ∈ traffic.parties →
    IsWatchOn traffic.workspace entry.watch (key traffic.workspace.tree path)

variable {traffic : Traffic}

/-- What a party owns, in front of what the others own. -/
lemma owned_perm {documents : SideBySide} {w : Workspace} {before later : List Party}
    {party : Party} : (owned ⟨documents, w, before ++ party :: later⟩).Perm
      ((documents.watches ++ party.watches) ++ (before ++ later).flatMap Party.watches) := by
  rw [owned, List.flatMap_append, List.flatMap_append, List.flatMap_cons, List.append_assoc]
  refine List.Perm.append_left _ ?_
  rw [← List.append_assoc, ← List.append_assoc]
  exact List.perm_append_comm.append_right _

lemma Turn.handling {next : Traffic} (h : Turn traffic next) :
    Handling traffic.owned traffic.workspace next.owned next.workspace := by
  cases h with
  | idle => exact .passed (.refl _) rfl
  | joined party hbeginning =>
    have hnone : party.watches = [] := by
      cases hbeginning <;> rfl
    refine .passed ?_ rfl
    simp [owned, join, hnone]
  | stepped before later hparties hstep =>
    obtain ⟨documents, w, parties⟩ := traffic
    obtain rfl := hparties
    exact hstep.handling.frame _ owned_perm owned_perm
  | refused before later party failure hparties =>
    obtain ⟨documents, w, parties⟩ := traffic
    obtain rfl := hparties
    refine .passed ?_ rfl
    refine owned_perm.trans (List.Perm.trans ?_ owned_perm.symm)
    rw [party.watches_refuse failure]
  | edited nodes => exact .passed (.refl _) rfl

/-- What has just been watched is watched under the right path. -/
lemma isWatchOn_of_step {documents documents' : SideBySide} {w w' : Workspace} {party : Party}
    {path : Path} {entry : Entry}
    (h : party.Step documents w (.looking ⟨path, .watched entry⟩) documents' w') :
    IsWatchOn w' entry.watch (key w.tree path) := by
  cases h with
  | watch => exact ⟨⟨path, 0⟩, List.getElem?_concat_length, rfl⟩
  | rest hfinished => cases hfinished

lemma orderly_start (w : Workspace) : (start w).Orderly := by
  refine ⟨⟨?_, ?_⟩, ?_, ?_⟩
  · intro watch
    rfl
  · intro watch hmem
    cases hmem
  · intro k entry hget
    cases hget
  · intro path entry hmem
    cases hmem

/-- A lookup that watches its document did so before, or has just begun to. -/
lemma Turn.isWatchOn {next : Traffic} (h : Turn traffic next) {path : Path} {entry : Entry}
    (hmem : .looking ⟨path, .watched entry⟩ ∈ next.parties) :
    .looking ⟨path, .watched entry⟩ ∈ traffic.parties ∨
      IsWatchOn next.workspace entry.watch (key traffic.workspace.tree path) := by
  rcases h.mem_cases hmem with hold | hbeginning | ⟨former, hformer, failure, hrefused⟩ |
    ⟨former, hformer, hstep⟩
  · exact .inl hold
  · cases hbeginning
  · rw [← Party.eq_of_refuse_eq_watched hrefused.symm] at hformer
    exact .inl hformer
  · exact .inr (isWatchOn_of_step hstep)

lemma Turn.orderly {next : Traffic} (h : Turn traffic next) (horderly : traffic.Orderly) :
    next.Orderly := by
  have hcurrent := h.current_eq
  refine ⟨h.handling.balanced horderly.balanced, ?_, ?_⟩
  · intro k entry hget
    apply h.handling.isWatchOn hcurrent
    rcases h.get?_eq_some hget with hkept | ⟨-, -, path, hmem, rfl⟩
    · exact horderly.kept k entry hkept
    · exact horderly.watched path entry hmem
  · intro path entry hmem
    rw [h.key_eq]
    rcases h.isWatchOn hmem with hold | hnew
    · exact h.handling.isWatchOn hcurrent (horderly.watched path entry hold)
    · exact hnew

lemma Orderly.run (h : traffic.Orderly) (moves : List Move) : (traffic.run moves).Orderly := by
  induction moves generalizing traffic with
  | nil => exact h
  | cons move rest ih => exact ih ((traffic.turn_after move).orderly h)

/-- Kept documents and live watches belong together one to one. -/
structure OneToOne (traffic : Traffic) : Prop where
  /-- The watch of a kept document is live, and on that document. -/
  live : ∀ k entry, traffic.documents.get? k = some entry →
    traffic.workspace.isLive entry.watch = true ∧ IsWatchOn traffic.workspace entry.watch k
  /-- No two documents share a watch. -/
  distinct : ∀ k entry k' entry', traffic.documents.get? k = some entry →
    traffic.documents.get? k' = some entry' → entry.watch = entry'.watch → k = k'
  /-- No watch was stopped twice. -/
  stops : ∀ watch ∈ traffic.workspace.watches, watch.stops ≤ 1
  /-- When everybody has come to an end, each live watch is that of a kept document. -/
  owner : traffic.isCalm = true → ∀ watch, traffic.workspace.isLive watch = true →
    ∃ k entry, traffic.documents.get? k = some entry ∧ entry.watch = watch

lemma mem_owned {k : String} {entry : Entry} (h : traffic.documents.get? k = some entry) :
    entry.watch ∈ traffic.owned := by
  have hmem := (traffic.documents.mem_entries_iff _ _).2 h
  exact List.mem_append_left _ (List.mem_map.2 ⟨(k, entry), hmem, rfl⟩)

lemma Orderly.oneToOne (h : traffic.Orderly) : traffic.OneToOne := by
  refine ⟨?_, ?_, h.balanced.stops, ?_⟩
  · intro k entry hget
    exact ⟨(h.balanced.isLive_iff _).2 (mem_owned hget), h.kept k entry hget⟩
  · intro k entry k' entry' hget hget' hwatch
    -- One watch is on one file, which has one key.
    obtain ⟨found, hfound, hk⟩ := h.kept k entry hget
    obtain ⟨found', hfound', hk'⟩ := h.kept k' entry' hget'
    rw [hwatch, hfound'] at hfound
    obtain rfl := Option.some.inj hfound
    exact hk.symm.trans hk'
  · intro hcalm watch hlive
    have hparties : traffic.parties.flatMap Party.watches = [] := by
      rw [List.flatMap_eq_nil_iff]
      intro party hmem
      exact Party.watches_of_isFinished (List.all_eq_true.1 hcalm party hmem)
    have hmem := (h.balanced.isLive_iff watch).1 hlive
    rw [owned, hparties, List.append_nil] at hmem
    obtain ⟨⟨k, entry⟩, hentry, hwatch⟩ := List.mem_map.1 hmem
    exact ⟨k, entry, (traffic.documents.mem_entries_iff _ _).1 hentry, hwatch⟩

/-- However lookups, evictions and disposals are interleaved, with failures in between and files
that change, kept documents and live watches belong together one to one. -/
theorem oneToOne_run (w : Workspace) (moves : List Move) : ((start w).run moves).OneToOne :=
  ((orderly_start w).run moves).oneToOne

end Traffic

end SideBySide

end Nullability
