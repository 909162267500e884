import Ligature.Proofs.CompiledRegexes
import Ligature.Session

/-!
# The regex cache cannot be seen

Two sessions that differ in nothing but what their regex caches hold and how much they may hold
give the same answers to the same requests, and write the same log. Every step is taken by both
sessions at once; what they have in common is kept, and so is that each cache is sound.
-/
namespace Ligature

open Rules (ModeSelector RegistrationError RuleTables Spec Table Numbered)
open Dispatch (Matcher Regex RegexCache Span anchoredSource)

/-! ### Two computations at once -/

namespace Traced

variable {α β γ δ σ : Type}

def SameAnswer (R : σ → σ → Prop) (a b : α × σ) : Prop := a.1 = b.1 ∧ R a.2 b.2

structure Related (R : α → β → Prop) (x : Traced α) (y : Traced β) : Prop where
  journal : x.journal = y.journal
  value : R x.value y.value

theorem Related.refl (x : Traced α) : Related Eq x x := ⟨rfl, rfl⟩

theorem Related.pure {R : α → β → Prop} {a : α} {b : β} (h : R a b) :
    Related R (pure a) (pure b) := ⟨rfl, h⟩

theorem Related.bind {R : α → β → Prop} {S : γ → δ → Prop} {x : Traced α} {y : Traced β}
    {f : α → Traced γ} {g : β → Traced δ} (h : Related R x y)
    (step : ∀ a b, R a b → Related S (f a) (g b)) : Related S (x >>= f) (y >>= g) := by
  obtain ⟨journal, value⟩ := step _ _ h.value
  exact ⟨by rw [journal_bind, journal_bind, h.journal, journal], value⟩

theorem Related.eq {x y : Traced α} (h : Related Eq x y) : x = y := by
  obtain ⟨value, journal⟩ := x
  obtain ⟨value', journal'⟩ := y
  obtain ⟨rfl, rfl⟩ := h
  rfl

end Traced

open Traced (Related SameAnswer)

/-! ### Matchers from two caches -/

namespace Dispatch.Matcher

def BothSound (k k' : RegexCache) : Prop := k.Sound ∧ k'.Sound

theorem related_compileAll (mode : Mode) {k k' : RegexCache} (sound : k.Sound)
    (sound' : k'.Sound) (found : CharMap Regex) (entries : List (Char × Rules.CompiledPattern)) :
    Related (SameAnswer BothSound) (compileAll mode k found entries)
      (compileAll mode k' found entries) := by
  induction entries generalizing k k' found with
  | nil => exact .pure ⟨rfl, sound, sound'⟩
  | cons e rest ih =>
    obtain ⟨c, p⟩ := e
    obtain ⟨compiled, next⟩ := sound.compile p
    obtain ⟨compiled', next'⟩ := sound'.compile p
    simp only [compileAll]
    cases result : k.compile p with
    | mk outcome k₁ =>
      cases result' : k'.compile p with
      | mk outcome' k₁' =>
        rw [result] at compiled next
        rw [result'] at compiled' next'
        -- Both outcomes are what compiling the source gives.
        obtain rfl : outcome = outcome' := compiled.trans compiled'.symm
        cases outcome with
        | ok r => exact ih next next' (found.insert c r)
        | error e => exact .bind (.refl _) fun _ _ _ => ih next next' found

theorem related_ofTable (t : Table) {k k' : RegexCache} (sound : k.Sound) (sound' : k'.Sound) :
    Related (SameAnswer BothSound) (ofTable t k) (ofTable t k') := by
  refine .bind (related_compileAll t.mode sound sound' .empty t.toList) ?_
  rintro ⟨regexes, k₁⟩ ⟨_, k₁'⟩ ⟨rfl, next, next'⟩
  exact .pure ⟨rfl, next, next'⟩

end Dispatch.Matcher

/-! ### Two sessions -/

namespace Session

/-- Two sessions with the same tables, ignored modes and failures, and sound caches. -/
structure SameButCache (s s' : Session) : Prop where
  tables : s.tables = s'.tables
  ignored : s.ignored = s'.ignored
  failures : s.failures = s'.failures
  sound : s.cache.Sound
  sound' : s'.cache.Sound

variable {s s' : Session}

theorem SameButCache.withTables (same : s.SameButCache s') (tables : RuleTables) :
    { s with tables }.SameButCache { s' with tables } :=
  ⟨rfl, same.ignored, same.failures, same.sound, same.sound'⟩

theorem SameButCache.addSet (same : s.SameButCache s') (index : Nat) (set : LigatureSet) :
    Related SameButCache (s.addSet index set) (s'.addSet index set) := by
  unfold Session.addSet
  rw [← same.tables]
  refine .bind (.refl _) ?_
  rintro ⟨result, tables⟩ _ rfl
  cases result with
  | ok _ => exact .bind (.refl _) fun _ _ _ => .pure (same.withTables tables)
  | error e =>
    refine .bind (.refl _) fun _ _ _ => .pure ?_
    exact { same.withTables tables with failures := congrArg (· ++ _) same.failures }

theorem SameButCache.addSets (same : s.SameButCache s') (index : Nat) (sets : List LigatureSet) :
    Related SameButCache (s.addSets index sets) (s'.addSets index sets) := by
  induction sets generalizing s s' index with
  | nil => exact .pure same
  | cons set rest ih => exact .bind (same.addSet index set) fun _ _ next => ih next (index + 1)

theorem sound_ofCapacity (n : Nat) : (RegexCache.ofCapacity n).Sound :=
  (RegexCache.Reachable.start n).sound

theorem related_start (c : Config) (n : UInt64) :
    Related SameButCache (start c) (start { c with cacheSize := n }) := by
  refine .bind (.refl _) ?_
  rintro tables _ rfl
  refine .bind (.refl _) fun _ _ _ => ?_
  have fresh : SameButCache ⟨tables, c.ignored, .ofCapacity c.cacheSize.toNat, []⟩
      ⟨tables, c.ignored, .ofCapacity n.toNat, []⟩ :=
    ⟨rfl, rfl, rfl, sound_ofCapacity _, sound_ofCapacity _⟩
  refine .bind (fresh.addSets 0 c.sets) fun s s' same => ?_
  rw [← same.tables]
  exact .bind (.refl _) fun _ _ _ => .pure same

theorem SameButCache.register (same : s.SameButCache s') (selector : ModeSelector)
    (specs : List Spec) :
    Related (SameAnswer SameButCache) (s.register selector specs) (s'.register selector specs) := by
  unfold Session.register
  rw [← same.tables]
  refine .bind (.refl _) ?_
  rintro ⟨result, tables⟩ _ rfl
  exact .pure ⟨rfl, same.withTables tables⟩

theorem SameButCache.tableFor (same : s.SameButCache s') (mode : Mode) :
    Related (SameAnswer SameButCache) (s.tableFor mode) (s'.tableFor mode) := by
  have ignored : s'.isIgnored mode = s.isIgnored mode := by
    rw [isIgnored, isIgnored, same.ignored]
  unfold Session.tableFor
  rw [← same.tables, ignored]
  split
  · exact .bind (.refl _) fun _ _ _ => .pure ⟨rfl, same⟩
  · refine .bind (.refl _) ?_
    rintro ⟨table, tables⟩ _ rfl
    exact .pure ⟨rfl, same.withTables tables⟩

theorem SameButCache.matcherFor (same : s.SameButCache s') (mode : Mode) :
    Related (SameAnswer SameButCache) (s.matcherFor mode) (s'.matcherFor mode) := by
  refine .bind (same.tableFor mode) ?_
  rintro ⟨table?, s₁⟩ ⟨_, s₁'⟩ ⟨rfl, same₁⟩
  cases table? with
  | none => exact .pure ⟨rfl, same₁⟩
  | some table =>
    refine .bind (Matcher.related_ofTable table.value same₁.sound same₁.sound') ?_
    rintro ⟨matcher, k⟩ ⟨_, k'⟩ ⟨rfl, sound, sound'⟩
    exact .pure ⟨rfl, { same₁ with sound, sound' }⟩

end Session

/-! ### Conversations -/

/-- What is asked of a session. A matcher is asked by its place among those handed out before. -/
inductive SessionRequest where
  | register (selector : ModeSelector) (specs : List Spec)
  | tableFor (mode : Mode)
  | matcherFor (mode : Mode)
  | lengthAt (matcher : Nat) (text : List Char) (index : Nat)
  | scan (matcher : Nat) (text : List Char)

inductive SessionAnswer where
  | registered (result : Except RegistrationError Unit)
  | table (t : Option (Numbered Table))
  | matcher (m : Option Matcher)
  | length (n : Option (Option Nat))
  | spans (l : Option (List Span))

structure Conversation where
  session : Session
  matchers : List Matcher

namespace Conversation

def ask (c : Conversation) : SessionRequest → Traced (SessionAnswer × Conversation)
  | .register selector specs => do
    let (result, session) ← c.session.register selector specs
    pure (.registered result, { c with session })
  | .tableFor mode => do
    let (t, session) ← c.session.tableFor mode
    pure (.table t, { c with session })
  | .matcherFor mode => do
    let (m, session) ← c.session.matcherFor mode
    pure (.matcher m, ⟨session, c.matchers ++ m.toList⟩)
  | .lengthAt k text i => pure (.length (c.matchers[k]?.map (·.lengthAt text i)), c)
  | .scan k text => pure (.spans (c.matchers[k]?.map (·.scan text)), c)

def answers (c : Conversation) : List SessionRequest → Traced (List SessionAnswer)
  | [] => pure []
  | q :: rest => do
    let (a, c) ← c.ask q
    let later ← c.answers rest
    pure (a :: later)

def ofConfig (c : Config) (requests : List SessionRequest) : Traced (List SessionAnswer) := do
  let session ← Session.start c
  answers ⟨session, []⟩ requests

def SameButCache (c c' : Conversation) : Prop :=
  c.session.SameButCache c'.session ∧ c.matchers = c'.matchers

variable {c c' : Conversation}

theorem SameButCache.ask (same : c.SameButCache c') (q : SessionRequest) :
    Related (SameAnswer SameButCache) (c.ask q) (c'.ask q) := by
  obtain ⟨session, matchers⟩ := c
  obtain ⟨session', _⟩ := c'
  obtain ⟨same, rfl⟩ := same
  cases q with
  | register selector specs =>
    refine .bind (same.register selector specs) ?_
    rintro ⟨result, s⟩ ⟨_, s'⟩ ⟨rfl, next⟩
    exact .pure ⟨rfl, next, rfl⟩
  | tableFor mode =>
    refine .bind (same.tableFor mode) ?_
    rintro ⟨t, s⟩ ⟨_, s'⟩ ⟨rfl, next⟩
    exact .pure ⟨rfl, next, rfl⟩
  | matcherFor mode =>
    refine .bind (same.matcherFor mode) ?_
    rintro ⟨m, s⟩ ⟨_, s'⟩ ⟨rfl, next⟩
    exact .pure ⟨rfl, next, rfl⟩
  | lengthAt k text i => exact .pure ⟨rfl, same, rfl⟩
  | scan k text => exact .pure ⟨rfl, same, rfl⟩

theorem SameButCache.answers (same : c.SameButCache c') (requests : List SessionRequest) :
    Related Eq (c.answers requests) (c'.answers requests) := by
  induction requests generalizing c c' with
  | nil => exact .refl _
  | cons q rest ih =>
    refine .bind (same.ask q) ?_
    rintro ⟨a, c₁⟩ ⟨_, c₁'⟩ ⟨rfl, next⟩
    refine .bind (ih next) ?_
    rintro later _ rfl
    exact .refl _

/-- A matcher has the regex of a leading character just if the pattern of the character compiles,
whatever the cache has been used for; and with a cache of another size, a configuration gives the
same answers to any requests and writes the same log. -/
theorem cache_transparent :
    (∀ cache : RegexCache, cache.Reachable → ∀ (t : Table) (c : Char) (r : Regex),
      (Matcher.ofTable t cache).value.1.regexes.get? c = some r ↔
        ∃ p, t.get? c = some p ∧ Regex.ofSource (anchoredSource p) = .ok r) ∧
    ∀ (c : Config) (n : UInt64) (requests : List SessionRequest),
      ofConfig c requests = ofConfig { c with cacheSize := n } requests := by
  constructor
  · intro cache reachable t c r
    rw [Matcher.get?_ofTable t reachable, Option.bind_eq_some_iff]
    refine exists_congr fun p => and_congr_right fun _ => ?_
    cases Regex.ofSource (anchoredSource p) <;> simp [Except.toOption]
  · intro c n requests
    refine Related.eq (.bind (Session.related_start c n) fun s s' same => ?_)
    have begun : SameButCache ⟨s, []⟩ ⟨s', []⟩ := ⟨same, rfl⟩
    exact begun.answers requests

end Conversation

end Ligature
