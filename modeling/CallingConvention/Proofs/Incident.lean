import CallingConvention.Proofs.Counting

/-!
# Incidents

What happens to a store while a program runs: effects are carried out, and frames, objects and
storage are made (`Incident`). A list of incidents is a run of the program as the store sees it, and
its prefixes lead to the moments of the run.

An object stays alive through a run if at no moment as many references have been given up as there
were and have been taken (`Effect.Spares`, `Store.survives`). The order of effects matters here: to
take a reference and then give one up spares an object that has only one, the other way round ends
it.
-/

namespace CallingConvention

/-- One thing that happens to a store. -/
inductive Incident where
  | effect (e : Effect)
  | newFrame
  | newObject (name : String) (t : Tenure) (value : Payload)
  | newRegion (p : Payload)
  | newCell

namespace Incident

/-- The effect that is carried out. -/
def effect? : Incident → Option Effect
  | effect e => some e
  | _ => none

/-- The effects that are carried out, in order. -/
def effects (is : List Incident) : List Effect := is.filterMap effect?

@[simp] theorem effects_append (is js : List Incident) :
    effects (is ++ js) = effects is ++ effects js :=
  List.filterMap_append

@[simp] theorem effects_map (es : List Effect) : effects (es.map effect) = es := by
  rw [effects, List.filterMap_map]
  exact List.filterMap_some

end Incident

/-! ## Effects that spare an object -/

theorem prefix_append_cases {α : Type} {early xs ys : List α} (h : early <+: xs ++ ys) :
    early <+: xs ∨ ∃ rest, rest <+: ys ∧ early = xs ++ rest := by
  rcases List.prefix_or_prefix_of_prefix h (List.prefix_append xs ys) with within | ⟨rest, rfl⟩
  · exact .inl within
  · exact .inr ⟨rest, (List.prefix_append_right_inj xs).mp h, rfl⟩

namespace Effect

/-- Whether effects spare an object with `k` references: at no moment have they given up as many as
there were and they have taken. -/
def Spares (n k : Nat) (es : List Effect) : Prop :=
  ∀ early, early <+: es → lost n early < k + gained n early

theorem Spares.of_prefix {n k : Nat} {es early : List Effect} (h : Spares n k es)
    (start : early <+: es) : Spares n k early :=
  fun _ earlier ↦ h _ (earlier.trans start)

theorem Spares.append {n k : Nat} {es later : List Effect} (h : Spares n k es)
    (spares : ∀ early, early <+: later →
      lost n es + lost n early < k + gained n es + gained n early) : Spares n k (es ++ later) := by
  intro early start
  rcases prefix_append_cases start with within | ⟨rest, beyond, rfl⟩
  · exact h early within
  · rw [lost_append, gained_append, ← Nat.add_assoc]
    exact spares rest beyond

/-- What comes later spares an object with the references that are left by then. -/
theorem Spares.tail {n k : Nat} {es later : List Effect} (h : Spares n k (es ++ later)) :
    Spares n (k + gained n es - lost n es) later := by
  intro early start
  have whole := h (es ++ early) ((List.prefix_append_right_inj es).mpr start)
  have first := h es (List.prefix_append ..)
  rw [lost_append, gained_append] at whole
  omega

theorem lost_le_of_prefix {early es : List Effect} (h : early <+: es) (n : Nat) :
    lost n early ≤ lost n es := by
  obtain ⟨rest, rfl⟩ := h
  rw [lost_append]
  exact Nat.le_add_right ..

end Effect

private theorem Incident.gained_eq_zero_of_lost {n : Nat} {i : Incident}
    (h : 0 < Effect.lost n (effects [i])) : Effect.gained n (effects [i]) = 0 := by
  cases i with
  | effect e =>
    cases e with
    | addRef => exact absurd h (Nat.lt_irrefl 0)
    | _ => rfl
  | _ => rfl

/-! ## Runs -/

namespace Store

/-- Let something happen. -/
def befall (s : Store) : Incident → Store
  | .effect e => s.apply e
  | .newFrame => s.newFrame.2
  | .newObject name t value => (s.newObject name t value).2
  | .newRegion p => (s.newRegion p).2
  | .newCell => s.newCell.2

/-- Let things happen in order. -/
def befallAll (s : Store) (is : List Incident) : Store := is.foldl befall s

@[simp] theorem befallAll_nil (s : Store) : s.befallAll [] = s := rfl

@[simp] theorem befallAll_cons (s : Store) (i : Incident) (is : List Incident) :
    s.befallAll (i :: is) = (s.befall i).befallAll is := rfl

@[simp] theorem befallAll_append (s : Store) (is js : List Incident) :
    s.befallAll (is ++ js) = (s.befallAll is).befallAll js :=
  List.foldl_append

@[simp] theorem befallAll_effects (s : Store) (es : List Effect) :
    s.befallAll (es.map .effect) = s.applyAll es :=
  List.foldl_map

variable {s : Store} {n k : Nat}

/-- An object that is counted is counted on by effects, and left alone by everything else. -/
theorem tenure?_befall (h : s.tenure? n = some (.counted k)) (i : Incident) :
    (s.befall i).tenure? n =
      some (.counted (k + Effect.gained n (Incident.effects [i])
        - Effect.lost n (Incident.effects [i]))) := by
  cases i with
  | effect e => simpa [befall, Incident.effects, Incident.effect?] using tenure?_apply h e
  | newObject name t value =>
    have old : n ≠ s.objects.length := by
      rintro rfl
      simp [tenure?] at h
    rw [befall, tenure?_newObject, if_neg old]
    exact h
  | _ => exact h

/-- The end of an object is told when it loses its last reference. -/
theorem mem_journal_befall {i : Incident} {line : String}
    (there : .destroyed n line ∈ (s.befall i).journal.toList) :
    .destroyed n line ∈ s.journal.toList ∨
      s.tenure? n = some (.counted 1) ∧ Effect.lost n (Incident.effects [i]) = 1 := by
  cases i with
  | effect e =>
    obtain ⟨new, tells, journal⟩ := exists_tells s e
    rw [befall, journal, List.mem_append] at there
    refine there.imp_right fun here ↦ ?_
    cases tells with
    | nothing => cases here
    | itself => simp at here
    | ending _ _ last loss =>
      obtain ⟨rfl, -⟩ : n = _ ∧ _ := by simpa using here
      exact ⟨last, by simpa [Incident.effects, Incident.effect?] using loss⟩
  | newObject => exact .inl (by simpa [befall, newObject, log, report, write, put] using there)
  | _ => exact .inl there

/-- **Survival.** An object that is spared by the effects of a run is counted through all of it, and
its end is not told. -/
theorem survives {is : List Incident} (h : s.tenure? n = some (.counted k))
    (spares : Effect.Spares n k (Incident.effects is)) :
    (s.befallAll is).tenure? n =
        some (.counted (k + Effect.gained n (Incident.effects is)
          - Effect.lost n (Incident.effects is))) ∧
      ∀ line, .destroyed n line ∈ (s.befallAll is).journal.toList →
        .destroyed n line ∈ s.journal.toList := by
  induction is generalizing s k with
  | nil => exact ⟨h, fun _ there ↦ there⟩
  | cons i is ih =>
    have split : Incident.effects (i :: is) = Incident.effects [i] ++ Incident.effects is :=
      Incident.effects_append [i] is
    rw [split] at spares ⊢
    have first := spares _ (List.prefix_append ..)
    have last := spares _ (List.prefix_refl _)
    obtain ⟨counted, told⟩ := ih (tenure?_befall h i) spares.tail
    rw [Effect.lost_append, Effect.gained_append] at last ⊢
    refine ⟨?_, fun line there ↦ ?_⟩
    · rw [befallAll_cons, counted]
      congr 2
      omega
    · refine (mem_journal_befall (told line there)).resolve_right fun ⟨one, loss⟩ ↦ ?_
      -- the last reference would be given up at once
      obtain rfl : k = 1 := by simpa using h.symm.trans one
      have gain : Effect.gained n (Incident.effects [i]) = 0 :=
        Incident.gained_eq_zero_of_lost (by omega)
      omega

end Store

end CallingConvention
