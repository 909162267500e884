import Mathlib.Data.List.Induction
import Ligature.Proofs.CompiledRegexes

/-!
# What a cache holds

A cache holds the texts that were asked for last, among those that compile and were asked for since
it was cleared: as many different ones as there are, up to its capacity, the newest first. Nothing
else that happened to it can be told from what it holds.
-/
namespace Ligature.Dispatch

open Rules (CompiledPattern)

/-! ### Lists without repetitions -/

section Lists

variable {α : Type} [DecidableEq α]

theorem eraseDups_filter (p : α → Bool) (as : List α) :
    (as.filter p).eraseDups = as.eraseDups.filter p := by
  -- On the length: what follows the first element is filtered before it goes on.
  induction length : as.length using Nat.strongRecOn generalizing as with
  | ind n ih =>
    cases as with
    | nil => rfl
    | cons a as =>
      have shorter : (as.filter fun b => !b == a).length < n := by
        have := List.length_filter_le (fun b => !b == a) as
        rw [List.length_cons] at length
        omega
      have later := ih _ shorter (as.filter fun b => !b == a) rfl
      rw [List.filter_filter] at later
      by_cases keep : p a = true
      · rw [List.filter_cons_of_pos keep, List.eraseDups_cons, List.eraseDups_cons,
          List.filter_cons_of_pos keep, ← later, List.filter_filter]
        simp only [Bool.and_comm]
      · rw [List.filter_cons_of_neg keep, List.eraseDups_cons, List.filter_cons_of_neg keep,
          ← later]
        congr 1
        refine List.filter_congr fun b _ => ?_
        by_cases same : b = a
        · subst same
          simp [keep]
        · simp [same]

theorem eraseDups_cons_eq (a : α) (as : List α) :
    (a :: as).eraseDups = a :: as.eraseDups.filter (· ≠ a) := by
  rw [List.eraseDups_cons, eraseDups_filter]
  congr 1
  refine List.filter_congr fun b _ => ?_
  by_cases same : b = a <;> simp [same]

theorem nodup_eraseDups (as : List α) : as.eraseDups.Nodup := by
  induction as with
  | nil => exact .nil
  | cons a as ih =>
    rw [eraseDups_cons_eq]
    exact List.nodup_cons.mpr ⟨by simp, ih.filter _⟩

/-- Of the first `k + 1` different elements `k` are left without any one of them. -/
theorem take_filter_take {as : List α} (distinct : as.Nodup) (a : α) (k : Nat) :
    ((as.take (k + 1)).filter (· ≠ a)).take k = (as.filter (· ≠ a)).take k := by
  induction as generalizing k with
  | nil => rfl
  | cons b as ih =>
    obtain ⟨fresh, distinct'⟩ := List.nodup_cons.mp distinct
    rw [List.take_succ_cons]
    by_cases same : b = a
    · subst same
      have others : ∀ c ∈ as, decide (c ≠ b) = true := by
        intro c mem
        rw [decide_eq_true_eq]
        rintro rfl
        exact fresh mem
      have others' : ∀ c ∈ as.take k, decide (c ≠ b) = true :=
        fun c mem => others c (List.mem_of_mem_take mem)
      rw [List.filter_cons_of_neg (by simp), List.filter_cons_of_neg (by simp),
        List.filter_eq_self.mpr others, List.filter_eq_self.mpr others', List.take_take,
        Nat.min_self]
    · rw [List.filter_cons_of_pos (by simpa using same),
        List.filter_cons_of_pos (by simpa using same)]
      cases k with
      | zero => rfl
      | succ k => rw [List.take_succ_cons, List.take_succ_cons, ih distinct' k]

end Lists

namespace RegexCache

/-! ### Calls -/

inductive Call where
  | compile (p : CompiledPattern)
  | clear
  deriving DecidableEq

def behind (c : RegexCache) : Call → RegexCache
  | .compile p => (c.compile p).2
  | .clear => c.clear

def behindAll (capacity : Nat) (calls : List Call) : RegexCache :=
  calls.foldl behind (ofCapacity capacity)

def Call.text? : Call → Option String
  | .compile p => if (Regex.ofSource (anchoredSource p)).isOk then some (anchoredSource p) else none
  | .clear => none

/-- The texts that compile and were asked for since the last clear, the newest request first. -/
def requested (calls : List Call) : List String :=
  (calls.reverse.takeWhile (· ≠ .clear)).filterMap Call.text?

def sources (c : RegexCache) : List String := c.entries.map (·.source)

@[simp] theorem requested_nil : requested [] = [] := rfl

@[simp] theorem requested_clear (calls : List Call) : requested (calls ++ [.clear]) = [] := by
  simp [requested]

@[simp] theorem requested_compile (calls : List Call) (p : CompiledPattern) :
    requested (calls ++ [.compile p]) =
      (Call.compile p).text?.toList ++ requested calls := by
  simp only [requested, List.reverse_append, List.reverse_singleton, List.singleton_append]
  rw [List.takeWhile_cons_of_pos (by simp), List.filterMap_cons]
  cases (Call.compile p).text? <;> rfl

@[simp] theorem behindAll_snoc (capacity : Nat) (calls : List Call) (call : Call) :
    behindAll capacity (calls ++ [call]) = (behindAll capacity calls).behind call := by
  simp [behindAll]

theorem reachable_behindAll (capacity : Nat) (calls : List Call) :
    (behindAll capacity calls).Reachable := by
  induction calls using List.reverseRecOn with
  | nil => exact .start capacity
  | append_singleton calls call ih =>
    rw [behindAll_snoc]
    cases call with
    | compile p => exact .compile p ih
    | clear => exact .clear ih

/-! ### One call -/

variable {c : RegexCache} {p : CompiledPattern} {r : Regex}

theorem sources_touch (c : RegexCache) (r : Regex) :
    (c.touch r).sources = (r.source :: c.sources.filter (· ≠ r.source)).take c.capacity := by
  simp [sources, touch, List.map_take, List.filter_map, Function.comp_def]

/-- Whether it was cached or not, a text that compiles is the newest one behind its request. -/
theorem compile_of_ok (sound : c.Sound) (compiled : Regex.ofSource (anchoredSource p) = .ok r) :
    c.compile p = (.ok r, c.touch r) := by
  have result := (sound.compile p).1
  rw [compiled] at result
  simp only [compile] at result ⊢
  cases found : c.entries.find? (·.source == anchoredSource p) with
  | some r' =>
    rw [found] at result
    cases result
    rfl
  | none => rw [compiled]

theorem not_mem_sources_of_error (sound : c.Sound) {e : Ligature.Regex.CompileError}
    (failed : Regex.ofSource (anchoredSource p) = .error e) : anchoredSource p ∉ c.sources := by
  intro mem
  obtain ⟨r, entry, source⟩ := List.mem_map.mp mem
  have compiled := sound r entry
  rw [source, failed] at compiled
  cases compiled

theorem compile_of_error (sound : c.Sound) {e : Ligature.Regex.CompileError}
    (failed : Regex.ofSource (anchoredSource p) = .error e) : c.compile p = (.error e, c) := by
  have absent : c.entries.find? (·.source == anchoredSource p) = none := by
    rw [List.find?_eq_none]
    intro r entry same
    exact not_mem_sources_of_error sound failed
      (List.mem_map.mpr ⟨r, entry, eq_of_beq same⟩)
  simp only [compile, absent, failed]

/-! ### Any number of calls -/

theorem capacity_behind (c : RegexCache) (call : Call) : (c.behind call).capacity = c.capacity := by
  cases call with
  | clear => rfl
  | compile p =>
    simp only [behind, compile]
    split
    · rfl
    · split <;> rfl

theorem capacity_behindAll (capacity : Nat) (calls : List Call) :
    (behindAll capacity calls).capacity = max capacity 1 := by
  induction calls using List.reverseRecOn with
  | nil => rfl
  | append_singleton calls call ih => rw [behindAll_snoc, capacity_behind, ih]

theorem sources_behindAll (capacity : Nat) (calls : List Call) :
    (behindAll capacity calls).sources = (requested calls).eraseDups.take (max capacity 1) := by
  induction calls using List.reverseRecOn with
  | nil => simp [behindAll, ofCapacity, sources]
  | append_singleton calls call ih =>
    have sound := (reachable_behindAll capacity calls).sound
    rw [behindAll_snoc]
    cases call with
    | clear =>
      rw [requested_clear]
      simp [behind, RegexCache.clear, sources]
    | compile p =>
      rw [requested_compile, behind]
      cases compiled : Regex.ofSource (anchoredSource p) with
      | error e =>
        rw [compile_of_error sound compiled, ih]
        simp [Call.text?, compiled, Except.isOk, Except.toBool]
      | ok r =>
        obtain ⟨k, size⟩ : ∃ k, max capacity 1 = k + 1 := ⟨max capacity 1 - 1, by omega⟩
        have text : (Call.compile p).text?.toList = [r.source] := by
          simp [Call.text?, compiled, source_ofSource compiled, Except.isOk, Except.toBool]
        rw [compile_of_ok sound compiled, sources_touch, capacity_behindAll, ih, text,
          List.singleton_append, eraseDups_cons_eq, size, List.take_succ_cons, List.take_succ_cons,
          take_filter_take (nodup_eraseDups _)]

/-- The text asked for again outlives the one asked for behind it at first, and the regex that does
not compile is as if it had not been asked for. -/
example :
    let literal (tail : String) : Call := .compile ⟨[], [tail]⟩
    let broken : Call := .compile ⟨["("], []⟩
    (behindAll 2 [literal ">", literal "=", literal ">", broken, literal "-"]).sources =
      ["^(?:(?:\\-))", "^(?:(?:>))"] := by
  decide +kernel

/-- A cache holds the texts asked for most recently, as many different ones as fit in, of all that
compile and were asked for since it was cleared. A text that is found becomes the newest, one that
does not compile leaves no trace, and every answer is what compiling the text gives. -/
theorem most_recent_held (capacity : Nat) (calls : List Call) :
    let c := behindAll capacity calls
    let recent := (requested calls).eraseDups
    c.sources = recent.take (max capacity 1) ∧
    c.size = min (max capacity 1) recent.length ∧
    ∀ p, (c.compile p).1 = Regex.ofSource (anchoredSource p) ∧
      (anchoredSource p ∈ c.sources →
        (c.compile p).2.sources = anchoredSource p :: c.sources.erase (anchoredSource p)) ∧
      ∀ e, Regex.ofSource (anchoredSource p) = .error e →
        (c.compile p).2 = c ∧ anchoredSource p ∉ c.sources := by
  intro c recent
  have held : c.sources = recent.take (max capacity 1) := sources_behindAll capacity calls
  have sound : c.Sound := (reachable_behindAll capacity calls).sound
  have distinct : c.sources.Nodup := by
    rw [held]
    exact (nodup_eraseDups _).sublist (List.take_sublist _ _)
  refine ⟨held, ?_, fun p => ⟨(sound.compile p).1, ?_, ?_⟩⟩
  · have size : c.size = c.sources.length := by simp [size, sources]
    rw [size, held, List.length_take]
  · intro mem
    obtain ⟨r, entry, source⟩ := List.mem_map.mp mem
    have compiled := sound r entry
    rw [source] at compiled
    rw [compile_of_ok sound compiled, sources_touch, source]
    -- What is found and put first makes room for itself.
    have fits : (c.sources.erase (anchoredSource p)).length < c.capacity := by
      have room : c.sources.length ≤ c.capacity := by
        rw [held, capacity_behindAll, List.length_take]
        exact Nat.min_le_left _ _
      have fewer := List.length_erase_of_mem mem
      have some := List.length_pos_of_mem mem
      omega
    have same : c.sources.filter (· ≠ anchoredSource p) = c.sources.erase (anchoredSource p) := by
      rw [distinct.erase_eq_filter]
      exact List.filter_congr fun s _ => by by_cases s = anchoredSource p <;> simp [*]
    rw [same, List.take_of_length_le fits]
  · intro e failed
    rw [compile_of_error sound failed]
    exact ⟨rfl, not_mem_sources_of_error sound failed⟩

end RegexCache

end Ligature.Dispatch
