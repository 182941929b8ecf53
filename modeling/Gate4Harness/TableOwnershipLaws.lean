-- The laws of the table pages: the pages that are out of the table allocator are those on
-- the lists of the live paging objects, each once, whatever fails on the way.
import Gate4Harness.TableOwnership
import Gate4Harness.Runs
import Mathlib.Data.List.Nodup

namespace Gate4Harness.TableOwnership

open Vm Program

variable {W ε α : Type}

/-! ## The log -/

/-- The pages that were handed out and did not come back. -/
def outstanding : List PageEvent → List (Nat × Nat)
  | [] => []
  | .obtained page :: rest => page :: outstanding rest
  | .freed page :: rest => (outstanding rest).erase page

/-- The allocator never hands out a page that is out. -/
def HandsOutFresh : List PageEvent → Prop
  | [] => True
  | .obtained page :: rest =>
    page.1 ∉ (outstanding rest).map Prod.fst ∧ HandsOutFresh rest
  | .freed _ :: rest => HandsOutFresh rest

/-- Only pages that are out come back. -/
def FreesOut : List PageEvent → Prop
  | [] => True
  | .obtained _ :: rest => FreesOut rest
  | .freed page :: rest => page ∈ outstanding rest ∧ FreesOut rest

/-! ## The invariant -/

structure Owned (objects : Nat → Paging) (log : List PageEvent) : Prop where
  addresses : ((outstanding log).map Prod.fst).Nodup
  owned : ∀ page, page ∈ outstanding log ↔ ∃ o, page ∈ (objects o).ownedTablePages
  once : ∀ o, (objects o).ownedTablePages.Nodup
  apart : ∀ o o', o ≠ o' → ∀ page ∈ (objects o).ownedTablePages,
    page ∉ (objects o').ownedTablePages
  room : ∀ o, (objects o).ownedTablePages.length ≤ maxOwnedTablePages
  freed : FreesOut log

/-- An object that is not live is empty, and the pages are accounted for as long as the
allocator does its part. -/
structure Accounted (s : TableState W) : Prop where
  dead : ∀ o, (s.objects o).rootPhysical = 0 → s.objects o = {}
  owned : HandsOutFresh s.log → Owned s.objects s.log

variable {objects : Nat → Paging} {log : List PageEvent} {o : Nat} {page : Nat × Nat}
  {s : TableState W} {paging : Paging}

theorem Owned.nodup (h : Owned objects log) : (outstanding log).Nodup :=
  List.Nodup.of_map _ h.addresses

/-- A page that was out goes back at once. -/
theorem Owned.bounce (h : Owned objects log) :
    Owned objects (.freed page :: .obtained page :: log) := by
  have hout : outstanding (.freed page :: .obtained page :: log) = outstanding log := by
    simp [outstanding]
  exact ⟨by rw [hout]; exact h.addresses, by rw [hout]; exact h.owned, h.once, h.apart, h.room,
    List.mem_cons_self, h.freed⟩

/-- An object gets a page more, at the end of its list. -/
theorem Owned.grow (h : Owned objects log) (hfresh : HandsOutFresh (.obtained page :: log))
    (hpages : paging.ownedTablePages = (objects o).ownedTablePages ++ [page])
    (hroom : (objects o).ownedTablePages.length < maxOwnedTablePages) :
    Owned (Function.update objects o paging) (.obtained page :: log) := by
  have hnew : page ∉ outstanding log := fun hin => hfresh.1 (List.mem_map_of_mem hin)
  have hnone : ∀ o', page ∉ (objects o').ownedTablePages :=
    fun o' hin => hnew ((h.owned page).mpr ⟨o', hin⟩)
  refine ⟨List.nodup_cons.mpr ⟨hfresh.1, h.addresses⟩, fun p => ⟨?_, ?_⟩, ?_, ?_, ?_, h.freed⟩
  · intro hp
    rcases List.mem_cons.mp hp with rfl | hp
    · exact ⟨o, by simp [hpages]⟩
    · obtain ⟨o', ho'⟩ := (h.owned p).mp hp
      by_cases heq : o' = o
      · subst heq
        exact ⟨o', by simp [hpages, ho']⟩
      · exact ⟨o', by rwa [Function.update_of_ne heq]⟩
  · rintro ⟨o', ho'⟩
    rw [outstanding, List.mem_cons]
    by_cases heq : o' = o
    · subst heq
      rw [Function.update_self, hpages, List.mem_append, List.mem_singleton] at ho'
      exact ho'.symm.imp_right fun hp => (h.owned p).mpr ⟨o', hp⟩
    · rw [Function.update_of_ne heq] at ho'
      exact .inr ((h.owned p).mpr ⟨o', ho'⟩)
  · intro o'
    by_cases heq : o' = o
    · subst heq
      rw [Function.update_self, hpages, List.nodup_append]
      refine ⟨h.once o', List.nodup_singleton page, ?_⟩
      intro p hp q hq hpq
      rw [List.mem_singleton] at hq
      exact hnone o' (hq ▸ hpq ▸ hp)
    · rw [Function.update_of_ne heq]
      exact h.once o'
  · intro o1 o2 hne p hp
    by_cases h1 : o1 = o
    · subst h1
      rw [Function.update_of_ne hne.symm]
      rw [Function.update_self, hpages, List.mem_append, List.mem_singleton] at hp
      rcases hp with hp | rfl
      · exact h.apart o1 o2 hne p hp
      · exact hnone o2
    · rw [Function.update_of_ne h1] at hp
      by_cases h2 : o2 = o
      · subst h2
        rw [Function.update_self, hpages, List.mem_append, List.mem_singleton]
        rintro (hp' | rfl)
        · exact h.apart o1 o2 hne p hp hp'
        · exact hnone o1 hp
      · rw [Function.update_of_ne h2]
        exact h.apart o1 o2 hne p hp
  · intro o'
    by_cases heq : o' = o
    · subst heq
      rw [Function.update_self, hpages, List.length_append]
      exact hroom
    · rw [Function.update_of_ne heq]
      exact h.room o'

theorem HandsOutFresh.freeAll {pages : List (Nat × Nat)} :
    HandsOutFresh (pages.map PageEvent.freed ++ log) ↔ HandsOutFresh log := by
  induction pages with
  | nil => exact Iff.rfl
  | cons page rest ih => exact ih

/-- Pages that are out go back one by one. -/
theorem outstanding_freeAll {pages : List (Nat × Nat)} (hlog : (outstanding log).Nodup)
    (hpages : pages.Nodup) (hout : ∀ page ∈ pages, page ∈ outstanding log)
    (hfreed : FreesOut log) :
    (outstanding (pages.map PageEvent.freed ++ log)).Sublist (outstanding log) ∧
    (∀ page, page ∈ outstanding (pages.map PageEvent.freed ++ log) ↔
      page ∈ outstanding log ∧ page ∉ pages) ∧
    FreesOut (pages.map PageEvent.freed ++ log) := by
  induction pages with
  | nil => exact ⟨List.Sublist.refl _, by simp, hfreed⟩
  | cons page rest ih =>
    rw [List.nodup_cons] at hpages
    obtain ⟨hsub, hmem, hrest⟩ := ih hpages.2 fun p hp => hout p (List.mem_cons_of_mem _ hp)
    have hin : page ∈ outstanding (rest.map PageEvent.freed ++ log) :=
      (hmem page).mpr ⟨hout page List.mem_cons_self, hpages.1⟩
    refine ⟨(List.erase_sublist).trans hsub, fun p => ?_, hin, hrest⟩
    change p ∈ (outstanding (rest.map PageEvent.freed ++ log)).erase page ↔ _
    rw [(hlog.sublist hsub).mem_erase_iff, hmem, List.mem_cons, not_or]
    constructor
    · rintro ⟨h1, h2, h3⟩
      exact ⟨h2, h1, h3⟩
    · rintro ⟨h2, h1, h3⟩
      exact ⟨h1, h2, h3⟩

/-- All pages of an object go back, and the object is empty. -/
theorem Owned.destroy (h : Owned objects log) (o : Nat) :
    Owned (Function.update objects o {})
      ((objects o).ownedTablePages.map PageEvent.freed ++ log) := by
  obtain ⟨hsub, hmem, hfreed⟩ := outstanding_freeAll h.nodup (h.once o)
    (fun page hp => (h.owned page).mpr ⟨o, hp⟩) h.freed
  have hpages : ∀ o', ((Function.update objects o {}) o').ownedTablePages =
      if o' = o then [] else (objects o').ownedTablePages := by
    intro o'
    by_cases heq : o' = o
    · subst heq
      simp
    · rw [Function.update_of_ne heq, if_neg heq]
  refine ⟨h.addresses.sublist (hsub.map _), fun page => ?_, fun o' => ?_, ?_, fun o' => ?_,
    hfreed⟩
  · rw [hmem, h.owned]
    constructor
    · rintro ⟨⟨o', ho'⟩, hnot⟩
      have heq : o' ≠ o := by
        rintro rfl
        exact hnot ho'
      exact ⟨o', by rw [hpages, if_neg heq]; exact ho'⟩
    · rintro ⟨o', ho'⟩
      rw [hpages] at ho'
      split at ho'
      · cases ho'
      · rename_i heq
        exact ⟨⟨o', ho'⟩, h.apart o' o heq page ho'⟩
  · rw [hpages]
    split
    · exact List.nodup_nil
    · exact h.once o'
  · intro o1 o2 hne page hp
    rw [hpages] at hp ⊢
    split at hp
    · cases hp
    · split
      · exact List.not_mem_nil
      · exact h.apart o1 o2 hne page hp
  · rw [hpages]
    split
    · exact Nat.zero_le _
    · exact h.room o'

/-! ## What the programs keep -/

section Programs

variable (t : TableService W) (d : DataService W)

/-- A property of the objects and the log alone. -/
def OfAccounts (P : TableState W → Prop) : Prop :=
  ∀ s s', s'.objects = s.objects → s'.log = s.log → P s → P s'

theorem accounted_ofAccounts : OfAccounts (Accounted : TableState W → Prop) := by
  intro s s' hobjects hlog h
  exact ⟨by rw [hobjects]; exact h.dead, by rw [hobjects, hlog]; exact h.owned⟩

variable {P : TableState W → Prop}

section Elsewhere

variable (hP : OfAccounts P)
include hP

theorem keeps_world (f : TableState W → W) :
    Keeps P (modify fun s => { s with world := f s } : TableProgram W ε Unit) :=
  keeps_modify fun _ => hP _ _ rfl rfl

theorem keeps_memory (f : TableState W → Nat → Nat → Nat) :
    Keeps P (modify fun s => { s with memory := f s } : TableProgram W ε Unit) :=
  keeps_modify fun _ => hP _ _ rfl rfl

theorem keeps_setArena (a : Arena) : Keeps P (setArena a : TableProgram W ε Unit) :=
  keeps_modify fun _ => hP _ _ rfl rfl

theorem keeps_store (table index entry : Nat) :
    Keeps P (store table index entry : TableProgram W ε Unit) :=
  keeps_memory hP _

theorem keeps_zeroPage (page : Nat) : Keeps P (zeroPage page : TableProgram W ε Unit) :=
  keeps_memory hP _

theorem keeps_freeDataPage (physical page : Nat) :
    Keeps P (freeDataPage d physical page : TableProgram W ε Unit) :=
  keeps_world hP _

theorem keeps_allocateDataPage :
    Keeps P (allocateDataPage d : TableProgram W ε (Option (Nat × Nat))) := by
  unfold allocateDataPage
  apply keeps_get.bind
  intro s
  apply (keeps_world hP _).bind
  intro _
  exact keeps_pure _

theorem keeps_tableAlias (physical : Nat) : Keeps P (tableAlias t physical) := by
  unfold tableAlias
  apply keeps_get.bind
  intro s
  apply (keeps_world hP _).bind
  intro _
  exact keeps_ite (keeps_throw _) (keeps_pure _)

end Elsewhere

theorem keeps_readEntry (table index : Nat) :
    Keeps P (readEntry table index : TableProgram W ε Nat) := by
  unfold readEntry
  exact keeps_get.bind fun s => keeps_pure _

/-- What a call of `allocate_table` does to the accounts of the object. -/
inductive TableEffect (o : Nat) (s s' : TableState W) : Prop
  | same : s'.objects = s.objects → s'.log = s.log → TableEffect o s s'
  | bounces (page : Nat × Nat) : s'.objects = s.objects →
      s'.log = .freed page :: .obtained page :: s.log → TableEffect o s s'
  | grows (page : Nat × Nat) :
      (s.objects o).ownedTablePages.length < maxOwnedTablePages →
      s'.objects = Function.update s.objects o { s.objects o with
        ownedTablePages := (s.objects o).ownedTablePages ++ [page] } →
      s'.log = .obtained page :: s.log → TableEffect o s s'

theorem tableAlias_effect (o physical : Nat) (s : TableState W) :
    TableEffect o s ((tableAlias t physical).runFrom s).2 := by
  unfold tableAlias
  simp only [runFrom_bind, runFrom_get, runFrom_modify]
  split
  · exact .same rfl rfl
  · exact .same rfl rfl

theorem allocateTable_effect (o parent index : Nat) (s : TableState W) :
    TableEffect o s ((allocateTable t o parent index).runFrom s).2 := by
  unfold allocateTable readEntry
  simp only [runFrom_bind, runFrom_get, runFrom_pure]
  split
  · split
    · exact .same rfl rfl
    · exact tableAlias_effect t o _ s
  · split
    · exact .same rfl rfl
    · rename_i hroom
      unfold allocateTablePage
      simp only [runFrom_bind, runFrom_get, runFrom_modify, runFrom_pure]
      cases hanswer : (t.allocatePage s.world).1 with
      | none => exact .same rfl rfl
      | some page =>
        obtain ⟨physical, page⟩ := page
        dsimp only
        split
        · exact .bounces (physical, page) rfl rfl
        · unfold zeroPage store setObject tableAlias
          simp only [runFrom_bind, runFrom_get, runFrom_modify, runFrom_attempt]
          by_cases halias : (t.physicalAlias physical (t.allocatePage s.world).2).1 = 0
          · simp only [halias, if_true, runFrom_throw]
            unfold withdrawTable store setObject freeTablePage
            simp only [runFrom_bind, runFrom_get, runFrom_modify, runFrom_throw]
            refine .bounces (physical, page) ?_ rfl
            simp
          · simp only [halias, if_false, runFrom_pure]
            exact .grows (physical, page) (Nat.lt_of_not_le hroom) rfl rfl

/-- The pages are accounted for, and the object is live. -/
def AccountedLive (o : Nat) (s : TableState W) : Prop :=
  Accounted s ∧ (s.objects o).rootPhysical ≠ 0

theorem accountedLive_ofAccounts (o : Nat) :
    OfAccounts (AccountedLive o : TableState W → Prop) := by
  intro s s' hobjects hlog h
  exact ⟨accounted_ofAccounts s s' hobjects hlog h.1, by rw [hobjects]; exact h.2⟩

theorem TableEffect.keeps {o : Nat} {s s' : TableState W} (heffect : TableEffect o s s')
    (h : AccountedLive o s) : AccountedLive o s' := by
  rcases heffect with ⟨hobjects, hlog⟩ | ⟨page, hobjects, hlog⟩ | ⟨page, hroom, hobjects, hlog⟩
  · exact accountedLive_ofAccounts o s s' hobjects hlog h
  · refine ⟨⟨by rw [hobjects]; exact h.1.dead, fun hfresh => ?_⟩, by rw [hobjects]; exact h.2⟩
    rw [hlog] at hfresh
    rw [hobjects, hlog]
    exact (h.1.owned hfresh.2).bounce
  · refine ⟨⟨fun o' hdead => ?_, fun hfresh => ?_⟩, ?_⟩
    · rw [hobjects] at hdead ⊢
      by_cases heq : o' = o
      · subst heq
        rw [Function.update_self] at hdead
        exact absurd hdead h.2
      · rw [Function.update_of_ne heq] at hdead ⊢
        exact h.1.dead o' hdead
    · rw [hlog] at hfresh
      rw [hobjects, hlog]
      exact (h.1.owned hfresh.2).grow hfresh rfl hroom
    · rw [hobjects, Function.update_self]
      exact h.2

theorem keeps_allocateTables (o table : Nat) (indices : List Nat) :
    Keeps (AccountedLive o) (allocateTables t o table indices) := by
  induction indices generalizing table with
  | nil => exact keeps_pure _
  | cons index rest ih =>
    unfold allocateTables
    have hstep : Keeps (AccountedLive o) (allocateTable t o table index) :=
      ⟨fun s => (allocateTable_effect t o table index s).keeps⟩
    exact hstep.bind fun child => ih child

theorem keeps_mapPage (o virtualPage physicalPage : Nat) (writable executable : Bool) :
    Keeps Accounted (mapPage t o virtualPage physicalPage writable executable) := by
  constructor
  intro s h
  unfold mapPage
  rw [runFrom_bind_ok (runFrom_get s)]
  dsimp only
  split
  · exact h
  · split
    · exact h
    · split
      · exact h
      · split
        · exact h
        · rename_i hroot
          have hlive : (s.objects o).rootPhysical ≠ 0 := by
            intro hdead
            rw [h.dead o hdead] at hroot
            exact hroot rfl
          have hP := accountedLive_ofAccounts (W := W) o
          refine ((keeps_allocateTables t o _ _).bind fun pt => ?_).after s ⟨h, hlive⟩ |>.1
          apply (keeps_readEntry _ _).bind
          intro entry
          exact keeps_ite (keeps_throw _) (keeps_store hP _ _ _)

theorem keeps_followTable (table index : Nat) (checkLarge : Bool) :
    Keeps Accounted (followTable t table index checkLarge) := by
  unfold followTable
  apply (keeps_readEntry _ _).bind
  intro entry
  exact keeps_ite (keeps_throw _) (keeps_ite (keeps_throw _)
    (keeps_tableAlias t accounted_ofAccounts _))

theorem keeps_unmapPage (o virtualPage : Nat) : Keeps Accounted (unmapPage t o virtualPage) := by
  unfold unmapPage
  apply keeps_get.bind
  intro s
  refine keeps_ite (keeps_throw _) (keeps_ite (keeps_throw _) (keeps_ite (keeps_throw _)
    (keeps_ite (keeps_throw _) ?_)))
  apply (keeps_followTable t _ _ _).bind
  intro pdpt
  apply (keeps_followTable t _ _ _).bind
  intro pd
  apply (keeps_followTable t _ _ _).bind
  intro pt
  apply (keeps_readEntry _ _).bind
  intro entry
  apply keeps_ite (keeps_throw _)
  apply (keeps_store accounted_ofAccounts _ _ _).bind
  intro _
  exact keeps_pure _

theorem keeps_unmapBack (o virtualStart index : Nat) :
    Keeps Accounted (unmapBack t o virtualStart index) := by
  induction index with
  | zero => exact keeps_pure _
  | succ index ih =>
    unfold unmapBack
    exact (keeps_unmapPage t _ _).attempt.bind fun _ => ih

theorem keeps_mapFrom (o virtualStart physicalStart : Nat) (writable executable : Bool)
    (index left : Nat) :
    Keeps Accounted (mapFrom t o virtualStart physicalStart writable executable index left) := by
  induction left generalizing index with
  | zero => exact keeps_pure _
  | succ left ih =>
    unfold mapFrom
    apply (keeps_mapPage t _ _ _ _ _).attempt.bind
    intro answer
    cases answer with
    | error e => exact (keeps_unmapBack t _ _ _).bind fun _ => keeps_throw _
    | ok _ => exact ih (index + 1)

theorem keeps_mapRange (o virtualStart physicalStart pageCount : Nat)
    (writable executable : Bool) :
    Keeps Accounted (mapRange t o virtualStart physicalStart pageCount writable executable) := by
  unfold mapRange
  exact keeps_ite (keeps_throw _) (keeps_mapFrom t _ _ _ _ _ _ _)

theorem keeps_presentEntry (table index : Nat) :
    Keeps P (presentEntry table index : TableProgram W PagingError Nat) := by
  unfold presentEntry
  apply (keeps_readEntry _ _).bind
  intro entry
  exact keeps_ite (keeps_throw _) (keeps_pure _)

theorem keeps_query (o virtualAddress : Nat) : Keeps Accounted (query t o virtualAddress) := by
  have halias := fun physical =>
    keeps_tableAlias t (accounted_ofAccounts (W := W)) physical
  unfold query
  apply keeps_get.bind
  intro s
  refine keeps_ite (keeps_throw _) (keeps_ite (keeps_throw _) ?_)
  apply (halias _).bind
  intro pml4
  apply (keeps_presentEntry _ _).bind
  intro entry
  apply (halias _).bind
  intro pdpt
  apply (keeps_presentEntry _ _).bind
  intro entry
  apply keeps_ite (keeps_pure _)
  apply (halias _).bind
  intro pd
  apply (keeps_presentEntry _ _).bind
  intro entry
  apply keeps_ite (keeps_pure _)
  apply (halias _).bind
  intro pt
  apply (keeps_presentEntry _ _).bind
  intro entry
  exact keeps_pure _

theorem keeps_dropPage (o : Nat) (x : CreatedPage) : Keeps Accounted (dropPage t d o x) := by
  unfold dropPage
  apply (keeps_unmapPage t _ _).attempt.bind
  intro _
  apply keeps_get.bind
  intro s
  apply (keeps_setArena accounted_ofAccounts _).bind
  intro _
  exact keeps_freeDataPage d accounted_ofAccounts _ _

theorem keeps_rollBack (o : Nat) (created : List CreatedPage) :
    Keeps Accounted (rollBack t d o created) := by
  induction created with
  | nil => exact keeps_pure _
  | cons x rest ih =>
    unfold rollBack
    exact (keeps_dropPage t d o x).bind fun _ => ih

theorem keeps_commitmentMapped (o : Nat) (x : Commitment) (virtualPage : Nat) :
    Keeps Accounted (commitmentMapped t o x virtualPage) := by
  unfold commitmentMapped
  apply keeps_ite (keeps_pure _)
  apply (keeps_query t _ _).attempt.bind
  intro answer
  cases answer with
  | error e => exact keeps_pure _
  | ok mapping => exact keeps_pure _

theorem keeps_commitNewPage (o generation : Nat) (writable executable : Bool)
    (virtualPage : Nat) :
    Keeps Accounted (commitNewPage t d o generation writable executable virtualPage) := by
  have hP := accounted_ofAccounts (W := W)
  unfold commitNewPage
  apply (keeps_allocateDataPage d hP).bind
  intro answer
  rcases answer with _ | ⟨physicalPage, page⟩
  · exact keeps_throw _
  · apply keeps_ite (keeps_throw _)
    apply keeps_ite
    · exact (keeps_freeDataPage d hP _ _).bind fun _ => keeps_throw _
    · apply (keeps_zeroPage hP _).bind
      intro _
      apply (keeps_mapPage t _ _ _ _ _).attempt.bind
      intro answer
      cases answer with
      | error e => exact (keeps_freeDataPage d hP _ _).bind fun _ => keeps_throw _
      | ok _ =>
        apply keeps_get.bind
        intro s
        split
        · apply (keeps_unmapPage t _ _).attempt.bind
          intro _
          exact (keeps_freeDataPage d hP _ _).bind fun _ => keeps_throw _
        · exact (keeps_setArena hP _).bind fun _ => keeps_pure _

theorem keeps_commitTurn (o generation : Nat) (writable executable : Bool) (virtualPage : Nat) :
    Keeps Accounted (commitTurn t d o generation writable executable virtualPage) := by
  unfold commitTurn
  apply keeps_get.bind
  intro s
  split
  · apply (keeps_commitmentMapped t _ _ _).bind
    intro mapped
    exact keeps_ite (keeps_pure _) (keeps_throw _)
  · exact (keeps_commitNewPage t d _ _ _ _ _).bind fun _ => keeps_pure _

theorem keeps_commitFrom (o generation : Nat) (writable executable : Bool)
    (created : List CreatedPage) (virtualPage left : Nat) :
    Keeps Accounted
      (commitFrom t d o generation writable executable created virtualPage left) := by
  induction left generalizing created virtualPage with
  | zero => exact keeps_pure _
  | succ left ih =>
    unfold commitFrom
    apply (keeps_commitTurn t d _ _ _ _ _).attempt.bind
    intro answer
    rcases answer with e | _ | x
    · exact (keeps_rollBack t d _ _).bind fun _ => keeps_throw _
    · exact ih _ _
    · exact ih _ _

theorem keeps_commitRange (o generation slot requestedStart requestedBytes : Nat)
    (writable executable : Bool) :
    Keeps Accounted
      (commitRange t d o generation slot requestedStart requestedBytes writable executable) := by
  unfold commitRange
  apply keeps_get.bind
  intro s
  split
  · exact keeps_throw _
  · exact keeps_commitFrom t d _ _ _ _ _ _ _

/-! ## The life of an object -/

/-- The object is made, with its root as its one page, or nothing is out more than before. -/
theorem create_accounted (o currentCr3 arenaBase arenaLength : Nat) (nxEnabled : Bool)
    (h : Accounted s) (hdead : (s.objects o).rootPhysical = 0) :
    Accounted ((create t o currentCr3 arenaBase arenaLength nxEnabled).runFrom s).2 := by
  have hempty := h.dead o hdead
  have hsame : Function.update s.objects o {} = s.objects := by
    rw [← hempty, Function.update_eq_self]
  unfold create
  split
  · exact h
  · split
    · exact h
    · unfold setObject tableAlias
      simp only [runFrom_bind, runFrom_get, runFrom_modify, hsame]
      by_cases halias : (t.physicalAlias (currentCr3 &&& physicalMask) s.world).1 = 0
      · simp only [halias, if_true, runFrom_throw]
        exact ⟨h.dead, h.owned⟩
      · simp only [halias, if_false, runFrom_pure]
        unfold allocateTablePage
        simp only [runFrom_bind, runFrom_get, runFrom_modify, runFrom_pure]
        cases hanswer : (t.allocatePage
            (t.physicalAlias (currentCr3 &&& physicalMask) s.world).2).1 with
        | none => exact ⟨h.dead, h.owned⟩
        | some page =>
          obtain ⟨rootPhysical, rootAlias⟩ := page
          dsimp only
          split
          · exact ⟨h.dead, fun hfresh => (h.owned hfresh.2).bounce⟩
          · rename_i hnonzero
            unfold zeroPage copyPage readEntry freeTablePage
            simp only [runFrom_bind, runFrom_get, runFrom_modify, runFrom_pure]
            split
            · exact ⟨h.dead, fun hfresh => (h.owned hfresh.2).bounce⟩
            · refine ⟨fun o' hdead' => ?_, fun hfresh => ?_⟩
              · by_cases heq : o' = o
                · subst heq
                  simp only [runFrom_modify, Function.update_self] at hdead'
                  exact absurd (Or.inl hdead') hnonzero
                · simp only [runFrom_modify, Function.update_of_ne heq] at hdead' ⊢
                  exact h.dead o' hdead'
              · exact (h.owned hfresh.2).grow hfresh (by simp [hempty])
                  (by simp [hempty, maxOwnedTablePages])

theorem runFrom_freeTablePages (pages : List (Nat × Nat)) (s : TableState W) :
    ∃ world, (freeTablePages t pages : TableProgram W ε Unit).runFrom s =
      (.ok ⟨⟩, { s with
        world, log := (pages.map PageEvent.freed).reverse ++ s.log }) := by
  induction pages generalizing s with
  | nil => exact ⟨s.world, rfl⟩
  | cons page rest ih =>
    obtain ⟨physical, page⟩ := page
    unfold freeTablePages freeTablePage
    obtain ⟨world, hrest⟩ := ih { s with
      world := t.freePage physical page s.world, log := .freed (physical, page) :: s.log }
    refine ⟨world, ?_⟩
    rw [runFrom_bind_ok (runFrom_modify _ s), hrest]
    simp

/-- Every page of a live object goes back once, the last one first, and the object is empty. -/
theorem destroy_live (hlive : (s.objects o).rootPhysical ≠ 0) :
    ∃ world, (destroy t o).runFrom s =
      (.ok ⟨⟩, { s with
        objects := Function.update s.objects o {}, world
        log := (s.objects o).ownedTablePages.map PageEvent.freed ++ s.log }) := by
  unfold destroy
  obtain ⟨world, hfree⟩ := runFrom_freeTablePages (ε := PagingError) t
    (s.objects o).ownedTablePages.reverse s
  refine ⟨world, ?_⟩
  rw [runFrom_bind_ok (runFrom_get s), if_neg hlive, runFrom_bind_ok hfree]
  unfold setObject
  rw [runFrom_modify]
  simp [List.map_reverse]

theorem destroy_accounted (h : Accounted s) (o : Nat) :
    Accounted ((destroy t o).runFrom s).2 := by
  by_cases hlive : (s.objects o).rootPhysical = 0
  · unfold destroy
    rw [runFrom_bind_ok (runFrom_get s), if_pos hlive]
    exact h
  · obtain ⟨world, hrun⟩ := destroy_live t hlive
    rw [hrun]
    refine ⟨fun o' hdead => ?_, fun hfresh => ?_⟩
    · by_cases heq : o' = o
      · subst heq
        simp
      · simp only [Function.update_of_ne heq] at hdead ⊢
        exact h.dead o' hdead
    · exact (h.owned (HandsOutFresh.freeAll.mp hfresh)).destroy o

/-! ## Runs -/

/-- The calls, each on one of the paging objects. A commit brings its arena and its allocator
of data pages along. -/
inductive TableOp (W : Type)
  | create (o currentCr3 arenaBase arenaLength : Nat) (nxEnabled : Bool)
  | mapPage (o virtualPage physicalPage : Nat) (writable executable : Bool)
  | mapRange (o virtualStart physicalStart pageCount : Nat) (writable executable : Bool)
  | unmapPage (o virtualPage : Nat)
  | commitRange (o : Nat) (a : Arena) (d : DataService W)
      (generation slot requestedStart requestedBytes : Nat) (writable executable : Bool)
  | destroy (o : Nat)

def step (s : TableState W) : TableOp W → TableState W
  | .create o cr3 base length nx => ((create t o cr3 base length nx).runFrom s).2
  | .mapPage o v p w x => ((mapPage t o v p w x).runFrom s).2
  | .mapRange o v p n w x => ((mapRange t o v p n w x).runFrom s).2
  | .unmapPage o v => ((unmapPage t o v).runFrom s).2
  | .commitRange o a d g slot start bytes w x =>
    ((commitRange t d o g slot start bytes w x).runFrom { s with arena := a }).2
  | .destroy o => ((destroy t o).runFrom s).2

/-- An object is created only when it is not live. -/
def CreatesDead (s : TableState W) : TableOp W → Prop
  | .create o _ _ _ _ => (s.objects o).rootPhysical = 0
  | _ => True

/-- No object is live, and no page is out. -/
def Fresh (s : TableState W) : Prop := (∀ o, s.objects o = {}) ∧ s.log = []

theorem Fresh.accounted (h : Fresh s) : Accounted s := by
  obtain ⟨hobjects, hlog⟩ := h
  refine ⟨fun o _ => hobjects o, fun _ => ?_⟩
  have hnone : ∀ o, (s.objects o).ownedTablePages = [] := fun o => by rw [hobjects]
  rw [hlog]
  refine ⟨List.nodup_nil, fun page => ?_, fun o => ?_, fun o o' _ page hp => ?_, fun o => ?_,
    trivial⟩
  · constructor
    · intro hp
      cases hp
    · rintro ⟨o, ho⟩
      rw [hnone] at ho
      cases ho
  · rw [hnone]
    exact List.nodup_nil
  · rw [hnone] at hp
    cases hp
  · rw [hnone]
    exact Nat.zero_le _

theorem step_accounted (h : Accounted s) {op : TableOp W} (hop : CreatesDead s op) :
    Accounted (step t s op) := by
  cases op with
  | create o cr3 base length nx => exact create_accounted t o _ _ _ _ h hop
  | mapPage o v p w x => exact (keeps_mapPage t o _ _ _ _).after s h
  | mapRange o v p n w x => exact (keeps_mapRange t o _ _ _ _ _).after s h
  | unmapPage o v => exact (keeps_unmapPage t o _).after s h
  | commitRange o a d g slot start bytes w x =>
    exact (keeps_commitRange t d o _ _ _ _ _ _).after { s with arena := a } ⟨h.dead, h.owned⟩
  | destroy o => exact destroy_accounted t h o

/-- After any run, with an allocator that hands out no page twice, the pages that are out are
those on the lists of the live objects, and each is there once. A list never has more than 64
pages, only pages that are out go back, and destroying an object gives each of its pages back
once. -/
theorem table_pages_are_owned_once (h : Runs.Reach Fresh (step t) CreatesDead s)
    (hfresh : HandsOutFresh s.log) :
    (∀ page, page ∈ outstanding s.log ↔
      ∃ o, (s.objects o).rootPhysical ≠ 0 ∧ page ∈ (s.objects o).ownedTablePages) ∧
    ((outstanding s.log).map Prod.fst).Nodup ∧
    (∀ o, (s.objects o).ownedTablePages.Nodup ∧
      (s.objects o).ownedTablePages.length ≤ maxOwnedTablePages) ∧
    (∀ o o', o ≠ o' → ∀ page ∈ (s.objects o).ownedTablePages,
      page ∉ (s.objects o').ownedTablePages) ∧
    FreesOut s.log ∧
    ∀ o, (s.objects o).rootPhysical ≠ 0 →
      (step t s (.destroy o)).log = (s.objects o).ownedTablePages.map PageEvent.freed ++ s.log ∧
      (step t s (.destroy o)).objects = Function.update s.objects o {} := by
  have hall : Accounted s :=
    h.invariant (fun _ => Fresh.accounted) fun _ _ _ ih hop => step_accounted t ih hop
  have howned := hall.owned hfresh
  refine ⟨fun page => ?_, howned.addresses, fun o => ⟨howned.once o, howned.room o⟩, howned.apart,
    howned.freed, fun o hlive => ?_⟩
  · rw [howned.owned]
    constructor
    · rintro ⟨o, ho⟩
      refine ⟨o, fun hdead => ?_, ho⟩
      rw [hall.dead o hdead] at ho
      cases ho
    · rintro ⟨o, -, ho⟩
      exact ⟨o, ho⟩
  · obtain ⟨world, hrun⟩ := destroy_live t hlive
    change ((destroy t o).runFrom s).2.log = _ ∧ ((destroy t o).runFrom s).2.objects = _
    rw [hrun]
    exact ⟨rfl, rfl⟩

end Programs

/-- The pages 0x1000, 0x2000 and so on, but a page 0 as the fifth, and no alias for the
fourth. -/
def sampleService : TableService Nat where
  allocatePage n := (some (if n = 4 then (0, 7) else ((n + 1) * 0x1000, (n + 1) * 0x1000)), n + 1)
  freePage _ _ n := n
  physicalAlias physical n := (if physical = 0x4000 then 0 else physical, n)

def sampleTables : TableState Nat := { memory := fun _ _ => 0, world := 0 }

/-- The first two calls to map the page fail, and the third gets the table that was missing. -/
def sampleTableOps : List (TableOp Nat) :=
  [.create 1 0x99000 0x400000000000 0x40000000 true,
    .mapPage 1 0x400000000000 0x77000 true false, .mapPage 1 0x400000000000 0x77000 true false,
    .mapPage 1 0x400000000000 0x77000 true false]

theorem sample_table_pages_are_owned_once :
    (∀ page, page ∈ [(0x6000, 0x6000), (0x3000, 0x3000), (0x2000, 0x2000), (0x1000, 0x1000)] ↔
      ∃ o,
        ((Runs.run (step sampleService) sampleTables sampleTableOps).objects o).rootPhysical ≠ 0 ∧
        page ∈ ((Runs.run (step sampleService) sampleTables
          sampleTableOps).objects o).ownedTablePages) ∧
    (step sampleService (Runs.run (step sampleService) sampleTables sampleTableOps)
      (.destroy 1)).log.length = 12 := by
  have hallowed : Runs.Along (step sampleService) CreatesDead sampleTables sampleTableOps := by
    simp only [sampleTableOps, Runs.Along, CreatesDead, and_true]
    rfl
  have hreach : Runs.Reach Fresh (step sampleService) CreatesDead
      (Runs.run (step sampleService) sampleTables sampleTableOps) :=
    Runs.Reach.run_along (.start ⟨fun _ => rfl, rfl⟩) _ hallowed
  have hlog : (Runs.run (step sampleService) sampleTables sampleTableOps).log =
      [.obtained (0x6000, 0x6000), .freed (0, 7), .obtained (0, 7), .freed (0x4000, 0x4000),
        .obtained (0x4000, 0x4000), .obtained (0x3000, 0x3000), .obtained (0x2000, 0x2000),
        .obtained (0x1000, 0x1000)] := by decide +kernel
  have hdestroyed : (step sampleService (Runs.run (step sampleService) sampleTables sampleTableOps)
      (.destroy 1)).log.length = 12 := by decide +kernel
  refine ⟨?_, hdestroyed⟩
  generalize Runs.run (step sampleService) sampleTables sampleTableOps = s at hreach hlog
  have hfresh : HandsOutFresh s.log := by
    rw [hlog]
    simp [HandsOutFresh, outstanding]
  have hlaw := (table_pages_are_owned_once sampleService hreach hfresh).1
  have hout : outstanding s.log =
      [(0x6000, 0x6000), (0x3000, 0x3000), (0x2000, 0x2000), (0x1000, 0x1000)] := by
    rw [hlog]
    decide
  rwa [hout] at hlaw

end Gate4Harness.TableOwnership
