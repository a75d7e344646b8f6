/-
# The templates that a cache keeps

A cache drops the template that was asked for longest ago, and it does so step by step, without a
record of what was asked.  All the same its entries are determined by the record: they are the
latest distinct keys for which a template was given since the cache was last cleared
(`least_recently_used`).

The record is a list of calls.  `Exact` says what a cache has to do with it; every call keeps this
(`Exact.serve`), so it holds after all of them.  The one thing to see is that a template that was
dropped is never missed later: the latest elements of a list, with one of them brought to the end,
are the latest elements of the list with the same one brought to the end (`latest_concat`).
-/
import Mathlib.Data.List.Dedup
import Mathlib.Data.List.DropRight
import Phrasing.Template.Cache

namespace Phrasing

/-! ## 1. The latest elements of a list -/

section Latest

variable {α : Type}

/-- The last elements of a list, as many as the limit allows. -/
def latest (limit : Option Nat) (l : List α) : List α :=
  match limit with
  | none => l
  | some n => l.rtake n

theorem latest_nil (limit : Option Nat) : latest limit ([] : List α) = [] := by
  cases limit with
  | none => rfl
  | some n => exact List.rtake_nil n

theorem latest_suffix (limit : Option Nat) (l : List α) : latest limit l <:+ l := by
  cases limit with
  | none => exact List.suffix_rfl
  | some n => exact List.drop_suffix _ l

theorem length_latest_le {limit : Option Nat} {n : Nat} (h : limit = some n) (l : List α) :
    (latest limit l).length ≤ n := by
  rw [h]
  simp only [latest, List.rtake, List.length_drop]
  omega

theorem latest_of_length_le {limit : Option Nat} {l : List α}
    (h : ∀ n, limit = some n → l.length ≤ n) : latest limit l = l := by
  cases limit with
  | none => rfl
  | some n => simp [latest, List.rtake, Nat.sub_eq_zero_of_le (h n rfl)]

/-- The last elements of a list are those of any end of it that has enough elements. -/
theorem rtake_of_suffix {l s : List α} {n : Nat} (h : s <:+ l) (hn : n ≤ s.length) :
    l.rtake n = s.rtake n := by
  obtain ⟨t, rfl⟩ := h
  have hfront : t.length ≤ (t ++ s).length - n := by
    rw [List.length_append]
    omega
  have hback : (t ++ s).length - n - t.length = s.length - n := by
    rw [List.length_append]
    omega
  rw [List.rtake, List.drop_append, List.drop_eq_nil_of_le hfront, hback, List.nil_append,
    List.rtake]

variable [DecidableEq α]

theorem length_le_length_filter_ne {l : List α} (h : l.Nodup) (a : α) :
    l.length ≤ (l.filter (· ≠ a)).length + 1 := by
  have hcount := List.nodup_iff_count_le_one.mp h a
  have hsplit := List.length_eq_length_filter_add (l := l) (· = a)
  have hfilter : (l.filter (· = a)).length = l.count a := by
    rw [List.count, List.countP_eq_length_filter]
    rfl
  have hrest : (l.filter fun x => !decide (x = a)) = l.filter (· ≠ a) := by
    simp only [ne_eq, decide_not]
  rw [hfilter, hrest] at hsplit
  omega

/-- **What was dropped is not missed**: bringing an element to the end of the latest ones has the
same latest elements as bringing it to the end of all. -/
theorem latest_concat (limit : Option Nat) {l : List α} (h : l.Nodup) (a : α) :
    latest limit ((latest limit l).filter (· ≠ a) ++ [a]) =
      latest limit (l.filter (· ≠ a) ++ [a]) := by
  match limit with
  | none => rfl
  | some 0 => simp only [latest, List.rtake_zero]
  | some (n + 1) =>
    by_cases hshort : l.length ≤ n + 1
    · rw [latest_of_length_le (l := l) fun m hm => by cases hm; exact hshort]
    · have hsuffix : (l.rtake (n + 1)).filter (· ≠ a) <:+ l.filter (· ≠ a) :=
        (latest_suffix (some (n + 1)) l).filter _
      have hlength : (l.rtake (n + 1)).length = n + 1 := by
        simp only [List.rtake, List.length_drop]
        omega
      have hnodup : (l.rtake (n + 1)).Nodup :=
        (latest_suffix (some (n + 1)) l).sublist.nodup h
      have hfilter := length_le_length_filter_ne hnodup a
      simp only [latest, List.rtake_concat_succ]
      rw [rtake_of_suffix hsuffix (by omega)]

/-- One more element stands at the end of the distinct ones, wherever it stood before. -/
theorem dedup_concat (l : List α) (a : α) :
    (l ++ [a]).dedup = l.dedup.filter (· ≠ a) ++ [a] := by
  induction l with
  | nil => rfl
  | cons b l ih =>
    rw [List.cons_append, List.dedup_cons, ih, List.dedup_cons]
    by_cases hl : b ∈ l
    · rw [if_pos hl, if_pos (List.mem_append_left _ hl)]
    rw [if_neg hl]
    by_cases hb : b = a
    · subst hb
      rw [if_pos (List.mem_append_right _ (List.mem_singleton.mpr rfl)),
        List.filter_cons_of_neg (by simp)]
    · rw [if_neg (by simp [hl, hb]), List.filter_cons_of_pos (by simpa using hb),
        List.cons_append]

end Latest

/-- Whether there is a template under a key. -/
def CacheKey.isReadable (key : CacheKey) : Bool :=
  (Template.parse key.delimiters key.source).isOk

namespace TemplateCache

/-! ## 2. Calls -/

/-- What can be asked of a cache: a template between delimiters given as texts, or to be
cleared. -/
inductive Call where
  | get (source : Text) (delimiters : List Text)
  | clear
deriving DecidableEq

/-- The cache after a call. -/
def serve (c : TemplateCache) : Call → TemplateCache
  | .get source delimiters => (c.request source delimiters).2
  | .clear => c.clear

/-- A cache that was fresh before some calls, after them. -/
def after (limit : Option Nat) (calls : List Call) : TemplateCache :=
  calls.foldl serve (empty limit)

/-- The key that a call asks for.  Texts that are no delimiters make no key. -/
def Call.key? : Call → Option CacheKey
  | get source delimiters =>
    match Delimiters.ofTexts delimiters with
    | .ok d => some ⟨source, d⟩
    | .error _ => none
  | clear => none

/-- The calls since the cache was last cleared. -/
def sinceClear (calls : List Call) : List Call := calls.rtakeWhile (· ≠ .clear)

/-- The keys that were asked for since the cache was last cleared. -/
def asked (calls : List Call) : List CacheKey := (sinceClear calls).filterMap Call.key?

/-- The keys among them for which a template was given. -/
def answered (calls : List Call) : List CacheKey := (asked calls).filter CacheKey.isReadable

theorem sinceClear_clear (calls : List Call) : sinceClear (calls ++ [.clear]) = [] :=
  List.rtakeWhile_concat_neg _ _ _ (by simp)

theorem asked_clear (calls : List Call) : asked (calls ++ [.clear]) = [] := by
  rw [asked, sinceClear_clear]
  rfl

theorem asked_get (calls : List Call) (source : Text) (delimiters : List Text) :
    asked (calls ++ [.get source delimiters]) =
      asked calls ++ (Call.get source delimiters).key?.toList := by
  rw [asked, sinceClear, List.rtakeWhile_concat_pos _ _ _ (by simp), List.filterMap_append, asked,
    sinceClear, List.filterMap_cons]
  cases (Call.get source delimiters).key? <;> rfl

/-! ## 3. One look-up -/

/-- The keys of the entries, the one to be dropped next first. -/
def keys (c : TemplateCache) : List CacheKey := c.entries.map Prod.fst

/-- The entries are what reading their sources gives. -/
def Fresh (c : TemplateCache) : Prop :=
  ∀ e ∈ c.entries, Template.parse e.1.delimiters e.1.source = .ok e.2

theorem fresh_empty (limit : Option Nat) : (empty limit).Fresh := List.forall_mem_nil _

theorem keys_refresh (key : CacheKey) (t : Template) (entries : List (CacheKey × Template)) :
    (refresh key t entries).map Prod.fst =
      (entries.map Prod.fst).filter (· ≠ key) ++ [key] := by
  rw [refresh, List.map_append, List.filter_map]
  rfl

theorem evict_eq_latest (limit : Option Nat) (entries : List (CacheKey × Template)) :
    evict limit entries = latest limit entries := by
  cases limit <;> rfl

theorem map_latest {α β : Type} (f : α → β) (limit : Option Nat) (l : List α) :
    (latest limit l).map f = latest limit (l.map f) := by
  cases limit with
  | none => rfl
  | some n => simp only [latest, List.rtake, List.map_drop, List.length_map]

variable {c : TemplateCache} {key : CacheKey}

theorem fresh_refresh (h : c.Fresh) {t : Template}
    (ht : Template.parse key.delimiters key.source = .ok t) :
    ∀ e ∈ refresh key t c.entries, Template.parse e.1.delimiters e.1.source = .ok e.2 := by
  intro e he
  rcases List.mem_append.mp he with he | he
  · exact h e (List.mem_of_mem_filter he)
  · cases List.mem_singleton.mp he
    exact ht

/-- **A template that is kept** is given without being read again, and becomes the latest. -/
theorem get_of_mem (h : c.Fresh) (hkey : key ∈ c.keys) :
    ∃ t, Template.parse key.delimiters key.source = .ok t ∧
      c.get key = (.ok t, { c with entries := refresh key t c.entries, hits := c.hits + 1 }) := by
  obtain ⟨entry, hentry, hentryKey⟩ := List.mem_map.mp hkey
  have hsome : (c.entries.find? fun entry => entry.1 = key).isSome :=
    List.find?_isSome.mpr ⟨entry, hentry, decide_eq_true hentryKey⟩
  obtain ⟨found, hfound⟩ := Option.isSome_iff_exists.mp hsome
  have hfst : found.1 = key := by simpa using List.find?_some hfound
  subst hfst
  refine ⟨found.2, h found (List.mem_of_find?_eq_some hfound), ?_⟩
  simp only [get, find?, hfound, Option.map_some]

/-- **A template that is not kept** is read, and kept if it can be. -/
theorem get_of_not_mem (hkey : key ∉ c.keys) :
    c.get key =
      match Template.parse key.delimiters key.source with
      | .error f => (.error f, { c with misses := c.misses + 1 })
      | .ok t =>
        (.ok t, { c with
          misses := c.misses + 1, entries := evict c.limit (refresh key t c.entries) }) := by
  have hnone : (c.entries.find? fun entry => entry.1 = key) = none :=
    List.find?_eq_none.mpr fun entry hentry heq =>
      hkey (List.mem_map.mpr ⟨entry, hentry, of_decide_eq_true heq⟩)
  rw [get, find?, hnone]
  rfl

/-- A cache stays fresh, whether it has the template, reads it or fails to. -/
theorem Fresh.get (h : c.Fresh) (key : CacheKey) : (c.get key).2.Fresh := by
  by_cases hkey : key ∈ c.keys
  · obtain ⟨t, ht, hget⟩ := get_of_mem h hkey
    rw [hget]
    exact fresh_refresh h ht
  · rw [get_of_not_mem hkey]
    split
    · exact h
    · next t ht =>
      intro e he
      rw [evict_eq_latest] at he
      exact fresh_refresh h ht e ((latest_suffix _ _).subset he)

/-- Kept or not, the template is the one that reading its source gives. -/
theorem get_fst (h : c.Fresh) (key : CacheKey) :
    (c.get key).1 = Template.parse key.delimiters key.source := by
  by_cases hkey : key ∈ c.keys
  · obtain ⟨t, ht, hget⟩ := get_of_mem h hkey
    rw [hget, ht]
  · rw [get_of_not_mem hkey]
    split
    · next hf => exact hf.symm
    · next ht => exact ht.symm

/-- A source that cannot be read is counted and leaves no other trace. -/
theorem get_snd_of_error (h : c.Fresh) (key : CacheKey) {f : ParseFault}
    (hf : Template.parse key.delimiters key.source = .error f) :
    (c.get key).2 = { c with misses := c.misses + 1 } := by
  by_cases hkey : key ∈ c.keys
  · obtain ⟨t, ht, -⟩ := get_of_mem h hkey
    rw [hf] at ht
    cases ht
  · rw [get_of_not_mem hkey, hf]

/-- A look-up is counted as a hit if the key is there, and as a miss if not. -/
theorem counts_get (h : c.Fresh) (key : CacheKey) :
    (c.get key).2.hits = c.hits + (if key ∈ c.keys then 1 else 0) ∧
      (c.get key).2.misses = c.misses + (if key ∈ c.keys then 0 else 1) := by
  by_cases hkey : key ∈ c.keys
  · obtain ⟨t, -, hget⟩ := get_of_mem h hkey
    rw [hget, if_pos hkey, if_pos hkey]
    exact ⟨rfl, rfl⟩
  · rw [get_of_not_mem hkey, if_neg hkey, if_neg hkey]
    split <;> exact ⟨rfl, rfl⟩

/-! ## 4. Every call -/

/-- What a cache has to do with the calls so far. -/
structure Exact (limit : Option Nat) (calls : List Call) (c : TemplateCache) : Prop where
  limit_eq : c.limit = limit
  fresh : c.Fresh
  keys_eq : c.keys = latest limit (answered calls).dedup
  counts : c.hits + c.misses = (asked calls).length

variable {limit : Option Nat} {calls : List Call}

/-- A template that was given is the latest, whether it was kept before or not. -/
theorem Exact.keys_get (h : Exact limit calls c) (key : CacheKey) {t : Template}
    (ht : Template.parse key.delimiters key.source = .ok t) :
    (c.get key).2.keys = latest limit (c.keys.filter (· ≠ key) ++ [key]) ∧
      (c.get key).2.limit = limit := by
  by_cases hkey : key ∈ c.keys
  · obtain ⟨t', ht', hget⟩ := get_of_mem h.fresh hkey
    rw [ht] at ht'
    cases ht'
    rw [hget]
    refine ⟨?_, h.limit_eq⟩
    -- The list did not get longer, so that nothing has to be dropped.
    have hlength : (c.keys.filter (· ≠ key)).length < c.keys.length :=
      List.length_filter_lt_length_iff_exists.mpr ⟨key, hkey, by simp⟩
    rw [latest_of_length_le]
    · exact keys_refresh key t c.entries
    · intro n hn
      have hkeys := length_latest_le hn (answered calls).dedup
      rw [← h.keys_eq] at hkeys
      rw [List.length_append, List.length_singleton]
      omega
  · have hget := get_of_not_mem hkey
    rw [ht] at hget
    dsimp only at hget
    rw [hget, evict_eq_latest, h.limit_eq]
    refine ⟨?_, rfl⟩
    rw [keys, map_latest, keys_refresh]
    rfl

/-- Only the keys that were asked for matter. -/
theorem Exact.of_asked_eq (h : Exact limit calls c) {calls' : List Call}
    (hasked : asked calls' = asked calls) : Exact limit calls' c := by
  refine ⟨h.limit_eq, h.fresh, ?_, ?_⟩
  · rw [answered, hasked]
    exact h.keys_eq
  · rw [hasked]
    exact h.counts

/-- **A look-up keeps a cache exact**, whether a template is given or not. -/
theorem Exact.get (h : Exact limit calls c) {calls' : List Call} {key : CacheKey}
    (hasked : asked calls' = asked calls ++ [key]) : Exact limit calls' (c.get key).2 := by
  have hanswered : answered calls' = answered calls ++ [key].filter CacheKey.isReadable := by
    rw [answered, hasked, List.filter_append, answered]
  have hcounts : (c.get key).2.hits + (c.get key).2.misses = (asked calls').length := by
    obtain ⟨hhits, hmisses⟩ := counts_get h.fresh key
    rw [hhits, hmisses, hasked, List.length_append, List.length_singleton, ← h.counts]
    split <;> omega
  cases hparse : Template.parse key.delimiters key.source with
  | error f =>
    have hkey : key.isReadable = false := by rw [CacheKey.isReadable, hparse]; rfl
    rw [List.filter_cons_of_neg (by simp [hkey]), List.filter_nil, List.append_nil] at hanswered
    have hget := get_snd_of_error h.fresh key hparse
    refine ⟨?_, h.fresh.get key, ?_, hcounts⟩
    · rw [hget]
      exact h.limit_eq
    · rw [hget, hanswered]
      exact h.keys_eq
  | ok t =>
    have hkey : key.isReadable = true := by rw [CacheKey.isReadable, hparse]; rfl
    rw [List.filter_cons_of_pos hkey, List.filter_nil] at hanswered
    obtain ⟨hkeys, hlimit⟩ := h.keys_get key hparse
    refine ⟨hlimit, h.fresh.get key, ?_, hcounts⟩
    rw [hkeys, hanswered, dedup_concat, h.keys_eq]
    exact latest_concat limit (List.nodup_dedup _) _

/-- **A call keeps a cache exact.** -/
theorem Exact.serve (h : Exact limit calls c) (call : Call) :
    Exact limit (calls ++ [call]) (c.serve call) := by
  cases call with
  | clear =>
    refine ⟨h.limit_eq, fresh_empty _, ?_, ?_⟩
    · rw [answered, asked_clear]
      exact (latest_nil limit).symm
    · rw [asked_clear]
      rfl
  | get source delimiters =>
    have hasked := asked_get calls source delimiters
    cases hd : Delimiters.ofTexts delimiters with
    | error f =>
      simp only [Call.key?, hd, Option.toList_none, List.append_nil] at hasked
      simp only [TemplateCache.serve, request, hd]
      exact h.of_asked_eq hasked
    | ok d =>
      simp only [Call.key?, hd, Option.toList_some] at hasked
      simp only [TemplateCache.serve, request, hd]
      exact h.get hasked

/-- **A cache that was fresh is exact** after any calls. -/
theorem exact_after (limit : Option Nat) (calls : List Call) :
    Exact limit calls (after limit calls) := by
  induction calls using List.reverseRecOn with
  | nil => exact ⟨rfl, fresh_empty limit, (latest_nil limit).symm, rfl⟩
  | append_singleton calls call ih =>
    rw [after, List.foldl_append]
    exact ih.serve call

/-- **A cache keeps what was asked for latest**, as much as its limit allows.  After any calls of a
fresh cache:

* The keys of its entries are the latest distinct ones for which a template was given since the
  cache was last cleared, in the order in which they were last given; so there are never more than
  the limit.  Each is kept with the template that reading its source gives.
* Hits and misses count the look-ups since then.
* The next look-up gives what reading the source gives.  It is a hit if and only if its key is
  there.  If the source cannot be read, it counts as a miss and changes nothing else; if the
  delimiters are none, it changes nothing at all. -/
theorem least_recently_used (limit : Option Nat) (calls : List Call) :
    let c := after limit calls
    c.keys = latest limit (answered calls).dedup ∧
    (∀ n, limit = some n → c.size ≤ n) ∧
    (∀ e ∈ c.entries, Template.parse e.1.delimiters e.1.source = .ok e.2) ∧
    c.hits + c.misses = (asked calls).length ∧
    ∀ source delimiters,
      let c' := after limit (calls ++ [.get source delimiters])
      match Delimiters.ofTexts delimiters with
      | .error f => (c.request source delimiters).1 = .error (.delimiters f) ∧ c' = c
      | .ok d =>
        (c.request source delimiters).1 = (Template.parse d source).mapError .template ∧
        c'.hits = c.hits + (if ⟨source, d⟩ ∈ c.keys then 1 else 0) ∧
        c'.misses = c.misses + (if ⟨source, d⟩ ∈ c.keys then 0 else 1) ∧
        ∀ f, Template.parse d source = .error f → c' = { c with misses := c.misses + 1 } := by
  intro c
  have hc : Exact limit calls c := exact_after limit calls
  refine ⟨hc.keys_eq, fun n hn => ?_, hc.fresh, hc.counts, fun source delimiters => ?_⟩
  · have hlength := length_latest_le hn (answered calls).dedup
    rwa [← hc.keys_eq, TemplateCache.keys, List.length_map] at hlength
  · have hnext : after limit (calls ++ [.get source delimiters]) =
        (c.request source delimiters).2 := List.foldl_concat ..
    rw [hnext]
    cases hd : Delimiters.ofTexts delimiters with
    | error f =>
      simp only [request, hd]
      exact ⟨trivial, trivial⟩
    | ok d =>
      simp only [request, hd]
      obtain ⟨hhits, hmisses⟩ := counts_get hc.fresh ⟨source, d⟩
      refine ⟨?_, hhits, hmisses, fun f hf => get_snd_of_error hc.fresh _ hf⟩
      rw [get_fst hc.fresh]

/-- What is asked for again is dropped later. -/
example :
    let get (source : String) : Call := .get source.toList [['{'], ['}']]
    (after (some 2) [get "one", get "two", get "one", get "three"]).keys.map CacheKey.source =
      ["one".toList, "three".toList] := by decide

end TemplateCache

end Phrasing
