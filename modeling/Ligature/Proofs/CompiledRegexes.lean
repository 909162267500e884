import Ligature.Dispatch.Matcher

/-!
# Regexes out of a cache

A cache that has only been filled by compiling holds regexes as they are compiled, so a regex out of
it is the one that compiling would give. A matcher therefore has, for each leading character of its
table, the regex of the pattern of that character, unless it does not compile.
-/
namespace Ligature.Dispatch

open Rules (CompiledPattern Table)

namespace RegexCache

inductive Reachable : RegexCache → Prop where
  | start (capacity : Nat) : Reachable (.ofCapacity capacity)
  | compile {c : RegexCache} (p : CompiledPattern) : Reachable c → Reachable (c.compile p).2
  | clear {c : RegexCache} : Reachable c → Reachable c.clear

def Sound (c : RegexCache) : Prop := ∀ r ∈ c.entries, Regex.ofSource r.source = .ok r

theorem source_ofSource {source : String} {r : Regex} (compiled : Regex.ofSource source = .ok r) :
    r.source = source := by
  unfold Regex.ofSource at compiled
  cases h : Ligature.Regex.Pattern.compile source.toList with
  | error e =>
    rw [h] at compiled
    cases compiled
  | ok p =>
    rw [h] at compiled
    cases compiled
    rfl

theorem Sound.touch {c : RegexCache} (sound : c.Sound) {r : Regex}
    (compiled : Regex.ofSource r.source = .ok r) : (c.touch r).Sound := by
  intro x hx
  rcases List.mem_cons.mp (List.take_subset _ _ hx) with rfl | old
  · exact compiled
  · exact sound x (List.mem_filter.mp old).1

/-- A cache is no more than a shortcut. -/
theorem Sound.compile {c : RegexCache} (sound : c.Sound) (p : CompiledPattern) :
    (c.compile p).1 = Regex.ofSource (anchoredSource p) ∧ (c.compile p).2.Sound := by
  simp only [RegexCache.compile]
  cases found : c.entries.find? (·.source == anchoredSource p) with
  | some r =>
    have source : r.source = anchoredSource p := by
      simpa using List.find?_some found
    have compiled := sound r (List.mem_of_find?_eq_some found)
    rw [source] at compiled
    exact ⟨compiled.symm, sound.touch (source ▸ compiled)⟩
  | none =>
    cases compiled : Regex.ofSource (anchoredSource p) with
    | error e => simpa [compiled] using sound
    | ok r =>
      have same := (source_ofSource compiled).symm ▸ compiled
      simpa [compiled] using sound.touch same

theorem Reachable.sound {c : RegexCache} (reachable : c.Reachable) : c.Sound := by
  induction reachable with
  | start capacity =>
    intro r hr
    cases hr
  | compile p _ ih => exact (ih.compile p).2
  | clear _ _ =>
    intro r hr
    cases hr

end RegexCache

namespace Matcher

theorem get?_compileAll (mode : Mode) {entries : List (Char × CompiledPattern)}
    (distinct : entries.Pairwise fun x y => x.1 ≠ y.1) {cache : RegexCache} (sound : cache.Sound)
    (found : CharMap Regex) (c : Char) :
    (compileAll mode cache found entries).value.1.get? c =
      ((entries.find? (·.1 == c)).bind fun e =>
        (Regex.ofSource (anchoredSource e.2)).toOption).or (found.get? c) := by
  induction entries generalizing cache found with
  | nil => rfl
  | cons e entries ih =>
    obtain ⟨d, p⟩ := e
    obtain ⟨head, tail⟩ := List.pairwise_cons.mp distinct
    obtain ⟨compiled, sound'⟩ := sound.compile p
    have absent : d = c → entries.find? (·.1 == c) = none := by
      rintro rfl
      exact List.find?_eq_none.mpr fun x hx same => head x hx (eq_of_beq same).symm
    cases result : cache.compile p with
    | mk outcome cache' =>
      rw [result] at compiled sound'
      subst compiled
      cases source : Regex.ofSource (anchoredSource p) with
      | ok r =>
        rw [source] at result
        simp only [compileAll, result, ih tail sound', CharMap.get?_insert]
        by_cases same : d = c
        · simp [same, absent same, source, Except.toOption]
        · simp [same]
      | error e =>
        rw [source] at result
        simp only [compileAll, result, Traced.value_bind, ih tail sound']
        by_cases same : d = c
        · simp [same, absent same, source, Except.toOption]
        · simp [same]

/-- A matcher has the regexes of its table, whatever the cache held. -/
theorem get?_ofTable (t : Table) {cache : RegexCache} (reachable : cache.Reachable) (c : Char) :
    (ofTable t cache).value.1.regexes.get? c =
      (t.get? c).bind fun p => (Regex.ofSource (anchoredSource p)).toOption := by
  have distinct : t.toList.Pairwise fun x y => x.1 ≠ y.1 := by
    refine List.pairwise_map.mpr (t.entries.ascending.imp fun less same => ?_)
    exact Char.lt_irrefl _ (same ▸ less)
  have regexes := get?_compileAll t.mode distinct reachable.sound .empty c
  have entry : t.get? c = (t.toList.find? (·.1 == c)).map (·.2) := by
    rw [Table.get?, CharMap.get?, Table.toList, List.find?_map]
    simp [Function.comp_def]
  rw [entry, Option.bind_map, ← Option.or_none (o := Option.bind _ _)]
  exact regexes

theorem get?_ofTable_of_compile {t : Table} {cache : RegexCache} (reachable : cache.Reachable)
    {c : Char} {p : CompiledPattern} (entry : t.get? c = some p) {q : Ligature.Regex.Pattern}
    (compiled : Ligature.Regex.Pattern.compile ('^' :: p.render) = .ok q) :
    (ofTable t cache).value.1.regexes.get? c = some ⟨anchoredSource p, q⟩ := by
  rw [get?_ofTable t reachable, entry, Option.bind_some, Regex.ofSource, anchoredSource,
    String.toList_ofList, compiled]
  rfl

end Matcher

end Ligature.Dispatch
