import AnswerGraph.Store.Cache
import AnswerGraph.Proofs.StoreFailure
import Mathlib.Data.Finset.Card
import Mathlib.Tactic.IntervalCases

/-!
Reading a store through a cache. The cache is not told of changes below it, so what it holds is said
by the history alone: a document is kept exactly if some cached read found it below the cache and no
later step dropped it. From this the answers of cached reads follow, and when they are those of the
store below.
-/

namespace AnswerGraph

/-- A store and the documents that were read from it through a cache. -/
structure CachedStore where
  inner : StoreState
  cache : DocumentCache := {}

/-- What may happen to a cached store. -/
inductive CacheStep where
  | get (index id : String)
  | getAll (index : String)
  /-- A change of the store below the cache. -/
  | change (change : StoreChange)
  /-- Something else leaves other files behind the store. -/
  | replaceFiles (files : FileTree)
  | invalidate (index id : String)
  | invalidateIndex (index : String)
  | clear

/-- The steps that drop what is kept of a document. -/
inductive CacheStep.Drops (index id : String) : CacheStep → Prop where
  | invalidate : Drops index id (.invalidate index id)
  | invalidateIndex : Drops index id (.invalidateIndex index)
  | clear : Drops index id .clear

namespace CachedStore

/-- What the store below the cache answers. -/
def read (cached : CachedStore) (index id : String) : Except StoreError (Option Json) :=
  cached.inner.store.get cached.inner.files index id

def get (cached : CachedStore) (index id : String) :
    Except StoreError (Option Json) × CachedStore :=
  let answer := cached.cache.get cached.read index id
  (answer.1, { cached with cache := answer.2 })

/-- All documents of an index, for which the cache is not asked. -/
def getAll (cached : CachedStore) (index : String) : Except StoreError (List Json) × CachedStore :=
  (cached.inner.store.getAll cached.inner.files index, cached)

def step (cached : CachedStore) : CacheStep → CachedStore
  | .get index id => (cached.get index id).2
  | .getAll index => (cached.getAll index).2
  | .change change => { cached with inner := (change.run cached.inner).2 }
  | .replaceFiles files => { cached with inner := { cached.inner with files } }
  | .invalidate index id => { cached with cache := cached.cache.invalidate index id }
  | .invalidateIndex index => { cached with cache := cached.cache.invalidateIndex index }
  | .clear => { cached with cache := {} }

/-- The cached store after the first steps of a run that starts with an empty cache. -/
def after (start : StoreState) (steps : List CacheStep) (now : Nat) : CachedStore :=
  (steps.take now).foldl step { inner := start }

theorem after_succ (start : StoreState) (steps : List CacheStep) (now : Nat) :
    after start steps (now + 1) = (steps[now]?).elim (after start steps now)
      (after start steps now).step := by
  rw [after, List.take_add_one, List.foldl_append]
  cases steps[now]? <;> rfl

end CachedStore

/-! ## What a step does to the cache -/

namespace DocumentCache

/-- The document that an answer shows. -/
def shown? : Except StoreError (Option Json) → Option Json
  | .ok found => found
  | .error _ => none

theorem shown?_eq_some {answer : Except StoreError (Option Json)} {document : Json} :
    shown? answer = some document ↔ answer = .ok (some document) := by
  cases answer with
  | ok found => simp [shown?]
  | error fault => simp [shown?]

/-- No document is kept twice. -/
def Distinct (cache : DocumentCache) : Prop :=
  (cache.entries.map (·.1)).Nodup

theorem find?_filter (keep : String × String → Bool) (cache : DocumentCache)
    (index id : String) :
    DocumentCache.find? ⟨cache.entries.filter fun entry => keep entry.1⟩ index id =
      if keep (index, id) then cache.find? index id else none := by
  obtain ⟨entries⟩ := cache
  simp only [find?]
  induction entries with
  | nil => simp
  | cons entry rest ih =>
    obtain ⟨key, document⟩ := entry
    by_cases same : (index, id) = key
    · subst key
      cases kept : keep (index, id) with
      | true => simp [kept]
      | false => simpa [kept] using ih
    · have unequal : ((index, id) == key) = false := beq_eq_false_iff_ne.mpr same
      cases kept : keep key with
      | true => simp [kept, List.lookup_cons, unequal, ih]
      | false => simp [kept, List.lookup_cons, unequal, ih]

theorem find?_invalidate (cache : DocumentCache) (index id otherIndex otherId : String) :
    (cache.invalidate otherIndex otherId).find? index id =
      if index = otherIndex ∧ id = otherId then none else cache.find? index id := by
  rw [invalidate, find?_filter fun key => key != (otherIndex, otherId)]
  by_cases same : index = otherIndex ∧ id = otherId
  · simp [same]
  · simp [same]

theorem find?_invalidateIndex (cache : DocumentCache) (index id other : String) :
    (cache.invalidateIndex other).find? index id =
      if index = other then none else cache.find? index id := by
  rw [invalidateIndex, find?_filter fun key => key.1 != other]
  by_cases same : index = other
  · simp [same]
  · simp [same]

variable (read : String → String → Except StoreError (Option Json))

/-- A read keeps the document that it asked for, if it is found. -/
theorem find?_get_same (cache : DocumentCache) (index id : String) :
    (cache.get read index id).2.find? index id =
      (cache.find? index id).or (shown? (read index id)) := by
  rw [get]
  cases kept : cache.find? index id with
  | some document => simp [kept]
  | none =>
    rcases answer : read index id with fault | _ | document
    · simpa [shown?] using kept
    · simpa [shown?] using kept
    · simp [find?, shown?]

theorem find?_get_other (cache : DocumentCache) {index id otherIndex otherId : String}
    (different : (index, id) ≠ (otherIndex, otherId)) :
    (cache.get read otherIndex otherId).2.find? index id = cache.find? index id := by
  have unequal : ((index, id) == (otherIndex, otherId)) = false := beq_eq_false_iff_ne.mpr different
  rw [get]
  split
  · rfl
  · split
    · simp only [find?, List.lookup_cons, unequal]
    · rfl

theorem mem_keys {cache : DocumentCache} {key : String × String} :
    key ∈ cache.entries.map (·.1) ↔ ∃ document, cache.find? key.1 key.2 = some document := by
  rw [← Option.isSome_iff_exists, find?, List.lookup_isSome_iff, List.mem_map]
  constructor
  · rintro ⟨entry, member, rfl⟩
    exact ⟨entry, member, beq_self_eq_true _⟩
  · rintro ⟨entry, member, same⟩
    exact ⟨entry, member, (beq_iff_eq.mp same).symm⟩

theorem Distinct.filter {cache : DocumentCache} (distinct : cache.Distinct)
    (keep : (String × String) × Json → Bool) : Distinct ⟨cache.entries.filter keep⟩ :=
  distinct.sublist (List.filter_sublist.map _)

/-- A document is put into the cache only if it is not there. -/
theorem Distinct.get {cache : DocumentCache} (distinct : cache.Distinct) (index id : String) :
    (cache.get read index id).2.Distinct := by
  rw [DocumentCache.get]
  split
  · exact distinct
  · rename_i missing
    split
    · refine List.nodup_cons.mpr ⟨fun member => ?_, distinct⟩
      obtain ⟨document, found⟩ := mem_keys.mp member
      rw [missing] at found
      cases found
    · exact distinct

end DocumentCache

namespace CachedStore

open DocumentCache (shown? shown?_eq_some)

variable (cached : CachedStore) (index id : String)

theorem find?_step_of_drops {step : CacheStep} (drops : step.Drops index id) :
    (cached.step step).cache.find? index id = none := by
  cases drops with
  | invalidate => simp [CachedStore.step, DocumentCache.find?_invalidate]
  | invalidateIndex => simp [CachedStore.step, DocumentCache.find?_invalidateIndex]
  | clear => rfl

theorem find?_step_get : (cached.step (.get index id)).cache.find? index id =
    (cached.cache.find? index id).or (shown? (cached.read index id)) :=
  DocumentCache.find?_get_same cached.read cached.cache index id

/-- Reads of other documents, whatever they find, and changes below the cache leave alone what is
kept of a document. -/
theorem find?_step_other {step : CacheStep} (undropped : ¬ step.Drops index id)
    (unread : step ≠ .get index id) :
    (cached.step step).cache.find? index id = cached.cache.find? index id := by
  cases step with
  | get otherIndex otherId =>
    refine DocumentCache.find?_get_other cached.read cached.cache ?_
    rintro ⟨⟩
    exact unread rfl
  | getAll | change | replaceFiles => rfl
  | invalidate otherIndex otherId =>
    rw [CachedStore.step, DocumentCache.find?_invalidate, if_neg]
    rintro ⟨rfl, rfl⟩
    exact undropped .invalidate
  | invalidateIndex other =>
    rw [CachedStore.step, DocumentCache.find?_invalidateIndex, if_neg]
    rintro rfl
    exact undropped .invalidateIndex
  | clear => exact absurd .clear undropped

theorem distinct_step (distinct : cached.cache.Distinct) (step : CacheStep) :
    (cached.step step).cache.Distinct := by
  cases step with
  | get index id => exact distinct.get cached.read index id
  | getAll | change | replaceFiles => exact distinct
  | invalidate | invalidateIndex => exact distinct.filter _
  | clear => exact List.nodup_nil

theorem distinct_after (start : StoreState) (steps : List CacheStep) (now : Nat) :
    (after start steps now).cache.Distinct := by
  induction now with
  | zero => exact List.nodup_nil
  | succ now ih =>
    rw [after_succ]
    cases steps[now]? with
    | none => exact ih
    | some step => exact distinct_step _ ih step

end CachedStore

/-! ## What the history says -/

/-- Some step after the step `since` and before `now` drops what is kept of a document. -/
def Dropped (steps : List CacheStep) (index id : String) (since now : Nat) : Prop :=
  ∃ moment step, since < moment ∧ moment < now ∧ steps[moment]? = some step ∧ step.Drops index id

/-- A step of a run is a cached read of a document that is there below the cache. -/
structure Finds (start : StoreState) (steps : List CacheStep) (index id : String) (moment : Nat)
    (document : Json) : Prop where
  asked : steps[moment]? = some (.get index id)
  found : (CachedStore.after start steps moment).read index id = .ok (some document)

/-- A step of a run fills the entry of a document: it finds the document, and whatever was found of
it before has been dropped. -/
structure Fills (start : StoreState) (steps : List CacheStep) (index id : String) (moment : Nat)
    (document : Json) : Prop extends Finds start steps index id moment document where
  anew : ∀ earlier < moment, ∀ other, Finds start steps index id earlier other →
    Dropped steps index id earlier moment

/-- A document was filled before `now`, and nothing was dropped since. -/
def Kept (start : StoreState) (steps : List CacheStep) (index id : String) (now : Nat)
    (document : Json) : Prop :=
  ∃ filled < now, Fills start steps index id filled document ∧ ¬ Dropped steps index id filled now

variable {start : StoreState} {steps : List CacheStep} {index id : String}
variable {since moment filled now : Nat} {document other : Json}

theorem not_drops_get : ¬ (CacheStep.get index id).Drops index id := by
  rintro ⟨⟩

namespace Dropped

theorem later (dropped : Dropped steps index id since moment) (upTo : moment ≤ now) :
    Dropped steps index id since now := by
  obtain ⟨dropping, step, above, below, taken, drops⟩ := dropped
  exact ⟨dropping, step, above, by omega, taken, drops⟩

theorem earlier (dropped : Dropped steps index id moment now) (upTo : since ≤ moment) :
    Dropped steps index id since now := by
  obtain ⟨dropping, step, above, below, taken, drops⟩ := dropped
  exact ⟨dropping, step, by omega, below, taken, drops⟩

/-- What is dropped is dropped before, at or after any moment in between. -/
theorem split (dropped : Dropped steps index id since now) (moment : Nat) :
    Dropped steps index id since moment ∨
      (∃ step, steps[moment]? = some step ∧ step.Drops index id) ∨
      Dropped steps index id moment now := by
  obtain ⟨dropping, step, above, below, taken, drops⟩ := dropped
  rcases Nat.lt_trichotomy dropping moment with before | rfl | after
  · exact .inl ⟨dropping, step, above, before, taken, drops⟩
  · exact .inr (.inl ⟨step, taken, drops⟩)
  · exact .inr (.inr ⟨dropping, step, after, below, taken, drops⟩)

theorem not_self : ¬ Dropped steps index id now (now + 1) := by
  rintro ⟨dropping, step, above, below, -⟩
  omega

end Dropped

/-- A document that was found and not dropped since is kept: from that read on, or from an earlier
one that found it. -/
theorem Finds.kept (finds : Finds start steps index id since document) (before : since < now)
    (undropped : ¬ Dropped steps index id since now) :
    ∃ kept, Kept start steps index id now kept := by
  induction since using Nat.strong_induction_on generalizing document with
  | _ since ih =>
    by_cases anew : ∀ earlier < since, ∀ other, Finds start steps index id earlier other →
        Dropped steps index id earlier since
    · exact ⟨document, since, before, ⟨finds, anew⟩, undropped⟩
    · push Not at anew
      obtain ⟨earlier, below, other, found, still⟩ := anew
      refine ih earlier below found (by omega) fun dropped => ?_
      rcases dropped.split since with early | ⟨step, taken, drops⟩ | late
      · exact still early
      · rw [finds.asked] at taken
        cases taken
        exact not_drops_get drops
      · exact undropped late

/-- A read that finds what is not kept fills the entry. -/
theorem Finds.fills (finds : Finds start steps index id now document)
    (missing : ∀ kept, ¬ Kept start steps index id now kept) :
    Fills start steps index id now document := by
  refine ⟨finds, fun earlier before other found => ?_⟩
  by_contra undropped
  obtain ⟨kept, held⟩ := found.kept before undropped
  exact missing kept held

namespace Kept

/-- While a document is kept no read fills its entry. -/
theorem not_fills (kept : Kept start steps index id now other) :
    ¬ Fills start steps index id now document := by
  intro fills
  obtain ⟨filled, before, earlier, undropped⟩ := kept
  exact undropped (fills.anew filled before other earlier.toFinds)

theorem not_succ_of_drops {step : CacheStep} (taken : steps[now]? = some step)
    (drops : step.Drops index id) : ¬ Kept start steps index id (now + 1) document := by
  rintro ⟨filled, below, fills, undropped⟩
  rcases Nat.lt_succ_iff_lt_or_eq.mp below with before | rfl
  · exact undropped ⟨now, step, before, Nat.lt_succ_self now, taken, drops⟩
  · rw [fills.asked] at taken
    cases taken
    exact not_drops_get drops

/-- A step that neither fills nor drops changes nothing. -/
theorem succ_iff (unfilled : ¬ Fills start steps index id now document)
    (undropped : ∀ step, steps[now]? = some step → ¬ step.Drops index id) :
    Kept start steps index id (now + 1) document ↔ Kept start steps index id now document := by
  constructor
  · rintro ⟨filled, below, fills, kept⟩
    rcases Nat.lt_succ_iff_lt_or_eq.mp below with before | rfl
    · exact ⟨filled, before, fills, fun dropped => kept (dropped.later (Nat.le_succ now))⟩
    · exact absurd fills unfilled
  · rintro ⟨filled, before, fills, kept⟩
    refine ⟨filled, Nat.lt_succ_of_lt before, fills, fun dropped => ?_⟩
    rcases dropped.split now with early | ⟨step, taken, drops⟩ | late
    · exact kept early
    · exact undropped step taken drops
    · exact Dropped.not_self late

/-- A read of what is not kept keeps what it finds. -/
theorem succ_of_miss (asked : steps[now]? = some (.get index id))
    (missing : ∀ other, ¬ Kept start steps index id now other) :
    Kept start steps index id (now + 1) document ↔
      (CachedStore.after start steps now).read index id = .ok (some document) := by
  constructor
  · rintro ⟨filled, below, fills, undropped⟩
    rcases Nat.lt_succ_iff_lt_or_eq.mp below with before | rfl
    · exact absurd ⟨filled, before, fills, fun dropped =>
        undropped (dropped.later (Nat.le_succ now))⟩ (missing document)
    · exact fills.found
  · intro found
    have finds : Finds start steps index id now document := ⟨asked, found⟩
    exact ⟨now, Nat.lt_succ_self now, finds.fills missing, Dropped.not_self⟩

end Kept

namespace CachedStore

/-- The cache holds the documents that the history says are kept. -/
theorem find?_after (start : StoreState) (steps : List CacheStep) (index id : String) (now : Nat)
    (document : Json) :
    (after start steps now).cache.find? index id = some document ↔
      Kept start steps index id now document := by
  induction now generalizing document with
  | zero => exact ⟨nofun, fun ⟨_, below, _⟩ => absurd below (Nat.not_lt_zero _)⟩
  | succ now ih =>
    rw [after_succ]
    cases taken : steps[now]? with
    | none =>
      have unfilled : ¬ Fills start steps index id now document := fun fills => by
        cases taken.symm.trans fills.asked
      rw [Option.elim, ih, Kept.succ_iff unfilled (by simp [taken])]
    | some step =>
      rw [Option.elim]
      by_cases drops : step.Drops index id
      · rw [find?_step_of_drops _ _ _ drops]
        exact ⟨nofun, fun kept => absurd kept (Kept.not_succ_of_drops taken drops)⟩
      have undropped : ∀ other, steps[now]? = some other → ¬ other.Drops index id := by
        rw [taken]
        rintro _ ⟨⟩
        exact drops
      by_cases asked : step = .get index id
      · subst step
        rw [find?_step_get]
        cases held : (after start steps now).cache.find? index id with
        | some kept =>
          have unfilled : ¬ Fills start steps index id now document := ((ih kept).mp held).not_fills
          rw [Kept.succ_iff unfilled undropped, ← ih, held, Option.some_or]
        | none =>
          have missing : ∀ other, ¬ Kept start steps index id now other := by
            intro other kept
            cases held.symm.trans ((ih other).mpr kept)
          rw [Kept.succ_of_miss taken missing, Option.none_or, DocumentCache.shown?_eq_some]
      · have unfilled : ¬ Fills start steps index id now document := fun fills =>
          asked (Option.some.inj (taken.symm.trans fills.asked))
        rw [find?_step_other _ _ _ drops asked, ih, Kept.succ_iff unfilled undropped]

/-- The reads that fill an entry are those that miss it and find the document below. -/
theorem fills_iff : Fills start steps index id moment document ↔
    (after start steps moment).cache.find? index id = none ∧
      Finds start steps index id moment document := by
  constructor
  · intro fills
    refine ⟨Option.eq_none_iff_forall_ne_some.mpr fun kept held => ?_, fills.toFinds⟩
    exact ((find?_after start steps index id moment kept).mp held).not_fills fills
  · rintro ⟨missing, finds⟩
    refine finds.fills fun kept held => ?_
    cases missing.symm.trans ((find?_after start steps index id moment kept).mpr held)

end CachedStore

/-! ## What a cached read answers -/

/-- The step `filled` is the last before `now` that fills the entry of a document. -/
structure LastFill (start : StoreState) (steps : List CacheStep) (index id : String)
    (filled now : Nat) (document : Json) : Prop where
  fills : Fills start steps index id filled document
  before : filled < now
  last : ∀ later < now, filled < later → ∀ other, ¬ Fills start steps index id later other

/-- Each change of what the store below the cache answers is followed by a step that drops what is
kept of the document; `moment` is the step that makes the change. -/
def ChangesTold (start : StoreState) (steps : List CacheStep) (index id : String)
    (since now : Nat) : Prop :=
  ∀ moment, since ≤ moment → moment < now →
    (CachedStore.after start steps (moment + 1)).read index id ≠
      (CachedStore.after start steps moment).read index id →
    Dropped steps index id moment now

/-- A document is kept from the last fill of its entry. -/
theorem kept_iff_lastFill : Kept start steps index id now document ↔
    ∃ filled, LastFill start steps index id filled now document ∧
      ¬ Dropped steps index id filled now := by
  constructor
  · rintro ⟨filled, before, fills, undropped⟩
    refine ⟨filled, ⟨fills, before, ?_⟩, undropped⟩
    intro later below above other again
    exact undropped ((again.anew filled above document fills.toFinds).later (Nat.le_of_lt below))
  · rintro ⟨filled, last, undropped⟩
    exact ⟨filled, last.before, last.fills, undropped⟩

/-- If nothing was dropped since some moment and every change was told, nothing has changed. -/
theorem ChangesTold.read_eq (told : ChangesTold start steps index id since now)
    (undropped : ¬ Dropped steps index id since now) (above : since ≤ moment)
    (below : moment ≤ now) :
    (CachedStore.after start steps moment).read index id =
      (CachedStore.after start steps since).read index id := by
  induction moment, above using Nat.le_induction with
  | base => rfl
  | succ moment above ih =>
    rw [← ih (by omega)]
    by_contra changed
    exact undropped ((told moment above (by omega) changed).earlier above)

namespace CachedStore

open Store

theorem get_of_kept {cached : CachedStore} (held : cached.cache.find? index id = some document) :
    cached.get index id = (.ok (some document), cached) := by
  rw [get, DocumentCache.get, held]

theorem get_of_missing {cached : CachedStore} (missing : cached.cache.find? index id = none) :
    (cached.get index id).1 = cached.read index id := by
  rw [get, DocumentCache.get, missing]
  rcases cached.read index id with fault | _ | document <;> rfl

/-- A read that finds no document below the cache, or that fails, leaves the cache as it is. -/
theorem get_of_unfound {cached : CachedStore}
    (unfound : ∀ document, cached.read index id ≠ .ok (some document)) :
    (cached.get index id).2 = cached := by
  cases held : cached.cache.find? index id with
  | some document => rw [get_of_kept held]
  | none =>
    rw [get, DocumentCache.get, held]
    rcases answer : cached.read index id with fault | _ | document
    · rfl
    · rfl
    · exact absurd answer (unfound document)

/-- The documents in the cache are those of the keys for which one is kept. -/
theorem size_after (start : StoreState) (steps : List CacheStep) (now : Nat) :
    ∃ keys : Finset (String × String), keys.card = (after start steps now).cache.size ∧
      ∀ index id, (index, id) ∈ keys ↔ ∃ document, Kept start steps index id now document := by
  let keys := (after start steps now).cache.entries.map (·.1)
  refine ⟨keys.toFinset, ?_, fun index id => ?_⟩
  · rw [List.toFinset_card_of_nodup (distinct_after start steps now), List.length_map]
    rfl
  calc (index, id) ∈ keys.toFinset
      ↔ ∃ document, (after start steps now).cache.find? index id = some document :=
        List.mem_toFinset.trans DocumentCache.mem_keys
    _ ↔ ∃ document, Kept start steps index id now document :=
        exists_congr fun document => find?_after start steps index id now document

/-- Whatever was done to a cached store, and below it:
an entry is filled by a read that misses it and finds the document below; the keys in the cache are
those that were filled and not dropped since, so that misses and errors are never counted; a hit
shows the document that the last fill found; a read answers what the store below answers, errors
included, if each change of that answer since the last fill was followed by a drop; a read that
finds nothing and a read of all documents leave the cache alone, and the latter does not ask it. -/
theorem reads_of_history (start : StoreState) (steps : List CacheStep) (now : Nat) :
    let cached := after start steps now
    (∀ index id moment document, Fills start steps index id moment document ↔
        (after start steps moment).cache.find? index id = none ∧
          Finds start steps index id moment document) ∧
      (∃ keys : Finset (String × String), keys.card = cached.cache.size ∧
        ∀ index id, (index, id) ∈ keys ↔ ∃ filled document,
          LastFill start steps index id filled now document ∧
            ¬ Dropped steps index id filled now) ∧
      (∀ index id document, cached.cache.find? index id = some document →
        (cached.get index id).1 = .ok (some document) ∧ ∃ filled,
          LastFill start steps index id filled now document ∧
            (after start steps filled).read index id = .ok (some document) ∧
            ¬ Dropped steps index id filled now) ∧
      (∀ index id,
        (∀ filled document, LastFill start steps index id filled now document →
          ChangesTold start steps index id filled now) →
        (cached.get index id).1 = cached.read index id) ∧
      (∀ index id, (∀ document, cached.read index id ≠ .ok (some document)) →
        (cached.get index id).2 = cached) ∧
      ∀ index, cached.getAll index =
        (cached.inner.store.getAll cached.inner.files index, cached) := by
  intro cached
  refine ⟨fun index id moment document => fills_iff, ?_, ?_, ?_, fun index id => get_of_unfound,
    fun index => rfl⟩
  · obtain ⟨keys, counted, members⟩ := size_after start steps now
    refine ⟨keys, counted, fun index id => ?_⟩
    rw [members index id, exists_comm]
    exact exists_congr fun document => kept_iff_lastFill
  · intro index id document held
    obtain ⟨filled, last, undropped⟩ :=
      kept_iff_lastFill.mp ((find?_after start steps index id now document).mp held)
    exact ⟨congrArg Prod.fst (get_of_kept held), filled, last, last.fills.found, undropped⟩
  · intro index id told
    cases held : cached.cache.find? index id with
    | none => exact get_of_missing held
    | some document =>
      obtain ⟨filled, last, undropped⟩ :=
        kept_iff_lastFill.mp ((find?_after start steps index id now document).mp held)
      have unchanged : cached.read index id = (after start steps filled).read index id :=
        (told filled document last).read_eq undropped (Nat.le_of_lt last.before) (Nat.le_refl now)
      rw [get_of_kept held, unchanged, last.fills.found]

/-! A document is read, its file is lost behind the store, and its entry is dropped. -/

def storeX : StoreState :=
  ⟨⟨".", [("a", [("x", documentPath "." "a" "x")])]⟩, filesX⟩

def losingX : List CacheStep :=
  [.get "a" "x", .replaceFiles (.empty []), .get "a" "x", .invalidate "a" "x"]

theorem found_losingX : (after storeX losingX 0).read "a" "x" = .ok (some documentY) := by
  have read : readDocument storeX.files (documentPath "." "a" "x") = .ok documentY :=
    readDocument_filesX
  exact (Store.get_eq storeX.store storeX.files "a" "x").trans (congrArg (Except.map some) read)

theorem held_losingX : (after storeX losingX 2).cache.find? "a" "x" = some documentY := by
  calc (after storeX losingX 2).cache.find? "a" "x"
      = (after storeX losingX 1).cache.find? "a" "x" :=
        @find?_step_other (after storeX losingX 1) "a" "x" (.replaceFiles (.empty [])) nofun nofun
    _ = some documentY := by
        rw [after_succ]
        exact (find?_step_get (after storeX losingX 0) "a" "x").trans (by rw [found_losingX]; rfl)

theorem lost_losingX : (after storeX losingX 4).read "a" "x" = .error (.fault "./a/x.json") := by
  have located := empty_working.layout.locate_inner_absent named_a.followed
    followed_x.toPlainName usable_x rfl true
  have read : readDocument (.empty []) (documentPath "." "a" "x") =
      .error (.fault "./a/x.json") := by
    rw [readDocument, documentPath_eq, FileTree.readText_of_unlocated located]
    rfl
  exact (Store.get_eq storeX.store (.empty []) "a" "x").trans (congrArg (Except.map some) read)

theorem told_losingX (filled : Nat) : ChangesTold storeX losingX "a" "x" filled 4 := by
  intro moment _ below changed
  interval_cases moment
  · exact absurd rfl changed
  · exact ⟨3, .invalidate "a" "x", by decide, by decide, rfl, .invalidate⟩
  · exact absurd rfl changed
  · exact absurd rfl changed

/-- The lost document is shown until its entry is dropped; then the read fails as it does below the
cache, and nothing is kept of that. -/
theorem reads_of_history_losing :
    ((after storeX losingX 2).cache.find? "a" "x" = some documentY ∧
        ((after storeX losingX 2).get "a" "x").1 = .ok (some documentY)) ∧
      ((∀ filled document, LastFill storeX losingX "a" "x" filled 4 document →
          ChangesTold storeX losingX "a" "x" filled 4) ∧
        ((after storeX losingX 4).get "a" "x").1 = .error (.fault "./a/x.json")) ∧
      (∀ document, (after storeX losingX 4).read "a" "x" ≠ .ok (some document)) ∧
        ((after storeX losingX 4).get "a" "x").2 = after storeX losingX 4 := by
  obtain ⟨-, -, hits, -⟩ := reads_of_history storeX losingX 2
  obtain ⟨-, -, -, coherent, unfound, -⟩ := reads_of_history storeX losingX 4
  have told : ∀ filled document, LastFill storeX losingX "a" "x" filled 4 document →
      ChangesTold storeX losingX "a" "x" filled 4 :=
    fun filled _ _ => told_losingX filled
  have failed : ∀ document, (after storeX losingX 4).read "a" "x" ≠ .ok (some document) := by
    rw [lost_losingX]
    exact nofun
  exact ⟨⟨held_losingX, (hits "a" "x" documentY held_losingX).1⟩,
    ⟨told, (coherent "a" "x" told).trans lost_losingX⟩, failed, unfound "a" "x" failed⟩

end CachedStore

end AnswerGraph
