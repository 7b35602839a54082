/-
The policy engine decides by the first rule that applies.

Sorting the rules, the loop with its early return and the trace it gathers come to this: among the
rules whose conditions all hold, the one whose priority is least decides, and of equal priorities
the one that stands first; the trace has the rules up to it.  `evaluate_spec` says so for every
evaluation that does not raise, and that it does not matter how rules of different priorities are
mixed in the list.
-/
import ControlPlane.Lib.Except
import ControlPlane.Services.PolicyEngine

namespace ControlPlane.PolicyEngine

open ActionIntents

/-! ### The order of rules -/

/-- The level of a rule: its priority, as Python compares it. -/
def level (rule : Members) : Json := plain (priorityOf rule)

/-- The first of two levels is the lesser. -/
def Lower (j k : Json) : Prop := comparePlain j k = some .lt

theorem before_iff {a b : Placed} : before a b = true ↔
    level a.1 = level b.1 ∧ a.2 < b.2 ∨ Lower (level a.1) (level b.1) := by
  unfold before same compareValues Lower level
  by_cases h : plain (priorityOf a.1) = plain (priorityOf b.1)
  · simp [h, comparePlain_irrefl]
  · simp [h]

theorem before_asymm {a b : Placed} (h : before a b = true) : ¬ before b a = true := by
  rw [before_iff] at h ⊢
  rintro (⟨heq, hlt⟩ | hlower)
  · rcases h with ⟨-, hlt'⟩ | hlower'
    · omega
    · rw [heq] at hlower'
      exact comparePlain_irrefl _ hlower'
  · rcases h with ⟨heq, -⟩ | hlower'
    · rw [heq] at hlower
      exact comparePlain_irrefl _ hlower
    · exact comparePlain_asymm hlower' hlower

theorem before_trans {a b c : Placed} (h : before a b = true) (h' : before b c = true) :
    before a c = true := by
  rw [before_iff] at h h' ⊢
  rcases h with ⟨heq, hlt⟩ | hlower
  · rcases h' with ⟨heq', hlt'⟩ | hlower'
    · exact .inl ⟨heq.trans heq', hlt.trans hlt'⟩
    · exact .inr (by rwa [heq])
  · rcases h' with ⟨heq', -⟩ | hlower'
    · exact .inr (by rwa [← heq'])
    · exact .inr (comparePlain_trans hlower hlower')

/-- Two rules that can be compared stand in the order in one way or the other. -/
theorem before_total {a b : Placed} (hcomparable : comparable a.1 b.1 = true) (hne : a.2 < b.2) :
    before a b = true ∨ before b a = true := by
  rw [before_iff, before_iff]
  by_cases heq : level a.1 = level b.1
  · exact .inl (.inl ⟨heq, hne⟩)
  · have hsome : (comparePlain (level a.1) (level b.1)).isSome = true := by
      have hnot : same (priorityOf a.1) (priorityOf b.1) = false := decide_eq_false heq
      unfold comparable at hcomparable
      rwa [hnot, Bool.false_or] at hcomparable
    rcases lt_or_lt_of_comparable hsome heq with hlt | hgt
    · exact .inl (.inr hlt)
    · exact .inr (.inr hgt)

/-- The positions of rules grow along the list. -/
theorem pairwise_zipIdx (rules : List Members) (start : Nat) :
    (rules.zipIdx start).Pairwise fun a b => a.2 < b.2 := by
  induction rules generalizing start with
  | nil => exact List.Pairwise.nil
  | cons rule rest ih =>
      rw [List.zipIdx_cons]
      refine List.pairwise_cons.mpr ⟨fun b hb => ?_, ih (start + 1)⟩
      have := (List.mem_zipIdx hb).1
      show start < b.2
      omega

theorem mem_of_mem_zipIdx {α : Type} {list : List α} {a : α × Nat} (h : a ∈ list.zipIdx) :
    a.1 ∈ list := by
  have hmap : a.1 ∈ list.zipIdx.map Prod.fst := List.mem_map_of_mem h
  rwa [List.zipIdx_map_fst] at hmap

/-- The rules in order, where they can be put in order. -/
structure InOrder (rules : List Members) (order : List Placed) : Prop where
  sorted : order.Pairwise fun a b => before a b = true
  mem : ∀ a, a ∈ order ↔ a ∈ rules.zipIdx
  levels : ∀ k, (order.map (·.1)).filter (level · = k) = rules.filter (level · = k)

theorem orderedRules_inOrder {rules : List Members} {order : List Placed}
    (h : orderedRules rules = .ok order) : InOrder rules order := by
  unfold orderedRules at h
  split at h
  · next hall =>
      cases h
      have hcomparable : ∀ a ∈ rules, ∀ b ∈ rules, comparable a b = true := by
        intro a ha b hb
        exact List.all_eq_true.mp (List.all_eq_true.mp hall a ha) b hb
      have htotal : rules.zipIdx.Pairwise fun a b => before a b = true ∨ before b a = true :=
        (pairwise_zipIdx rules 0).imp_of_mem fun ha hb hlt =>
          before_total (hcomparable _ (mem_of_mem_zipIdx ha) _ (mem_of_mem_zipIdx hb)) hlt
      have hsorted := pairwise_ranked (fun a b => before a b = true) before_trans htotal
      refine ⟨hsorted, fun a => mem_ranked, fun k => ?_⟩
      have hkept := filter_ranked (fun a b => before a b = true) before_asymm hsorted
        (fun a => level a.1 = k)
        ((pairwise_zipIdx rules 0).imp fun hlt ha hb => before_iff.mpr
          (.inl ⟨(of_decide_eq_true ha).trans (of_decide_eq_true hb).symm, hlt⟩))
      rw [List.filter_map]
      show List.map _ (List.filter (fun a : Placed => decide (level a.1 = k)) _) = _
      rw [hkept]
      have hmap := List.filter_map (p := fun r => decide (level r = k)) (f := Prod.fst)
        (l := rules.zipIdx)
      rw [List.zipIdx_map_fst] at hmap
      exact hmap.symm
  · cases h

/-- Two orders of rules that agree on every level have the same rules in the same order. -/
theorem InOrder.map_eq {rules rules' : List Members} {order order' : List Placed}
    (h : InOrder rules order) (h' : InOrder rules' order')
    (hlevels : ∀ k, rules.filter (level · = k) = rules'.filter (level · = k)) :
    order.map (·.1) = order'.map (·.1) := by
  have hpairwise : ∀ {placed : List Placed}, (placed.Pairwise fun a b => before a b = true) →
      (placed.map (·.1)).Pairwise fun a b => level a = level b ∨ Lower (level a) (level b) := by
    intro placed hsorted
    rw [List.pairwise_map]
    exact hsorted.imp fun hbefore => (before_iff.mp hbefore).imp And.left id
  exact eq_of_levels Lower comparePlain_asymm (hpairwise h.sorted) (hpairwise h'.sorted)
    fun k => (h.levels k).trans ((hlevels k).trans (h'.levels k).symm)

/-! ### The loop -/

section

variable (conversions : Conversions) (sources : Sources)

/-- A condition is evaluated, and holds. -/
def Holds (condition : Json) : Prop :=
  ∃ result, evaluateCondition conversions sources condition = .ok result ∧ result.matched = true

/-- All conditions of a rule hold. -/
def Matches (rule : Members) : Prop :=
  ∃ conditions, iterate (getOr rule "all_conditions" (.arr [])) = .ok conditions ∧
    ∀ condition ∈ conditions, Holds conversions sources condition

/-- The entry is what the evaluation of a rule adds to the trace. -/
def Evaluates (placed : Placed) (entry : Members) : Prop :=
  ∃ results, conditionResults conversions sources placed.1 = .ok results ∧
    entry = ruleEntry placed.1 results

variable {conversions sources}

theorem matches_iff {rule : Members} {results : List ConditionResult}
    (h : conditionResults conversions sources rule = .ok results) :
    Matches conversions sources rule ↔ allMatched results = true := by
  unfold conditionResults at h
  obtain ⟨conditions, hconditions, h⟩ := bind_eq_ok h
  have hmap := mapM_eq_ok h
  unfold Matches allMatched
  rw [hconditions]
  simp only [Except.ok.injEq, exists_eq_left', List.all_eq_true]
  constructor
  · intro hall result hresult
    obtain ⟨condition, hcondition, heval⟩ := (mem_of_mapM h result).mp hresult
    obtain ⟨other, hother, hmatched⟩ := hall condition hcondition
    rw [heval] at hother
    cases hother
    exact hmatched
  · intro hall condition hcondition
    have hmem : evaluateCondition conversions sources condition
        ∈ conditions.map (evaluateCondition conversions sources) := List.mem_map_of_mem hcondition
    rw [hmap] at hmem
    obtain ⟨result, hresult, heval⟩ := List.mem_map.mp hmem
    exact ⟨result, heval.symm, hall result hresult⟩

/-- What the loop over the rules has done when it returns: it passed rules that do not match, up to
one that does, or to the end. -/
theorem evaluateRules_ok {policy : Policy} {decision : PolicyDecision} :
    ∀ {placed : List Placed} {trace : List Members},
      evaluateRules conversions sources policy trace placed = .ok decision →
      ∃ passed entries, List.Forall₂ (Evaluates conversions sources) passed entries ∧
        (∀ a ∈ passed, ¬ Matches conversions sources a.1) ∧
        ((∃ first later entry, placed = passed ++ first :: later ∧
            Evaluates conversions sources first entry ∧ Matches conversions sources first.1 ∧
            decideByRule conversions policy first.1 (trace ++ entries ++ [entry]) = .ok decision) ∨
          (placed = passed ∧
            decideByDefault conversions policy (trace ++ entries) = .ok decision)) := by
  intro placed
  induction placed with
  | nil =>
      intro trace h
      refine ⟨[], [], .nil, nofun, .inr ⟨rfl, ?_⟩⟩
      rwa [List.append_nil]
  | cons a rest ih =>
      intro trace h
      unfold evaluateRules at h
      obtain ⟨results, hresults, h⟩ := bind_eq_ok h
      have hentry : Evaluates conversions sources a (ruleEntry a.1 results) := ⟨results, hresults, rfl⟩
      cases hmatched : allMatched results with
      | true =>
          rw [if_pos hmatched] at h
          refine ⟨[], [], .nil, nofun, .inl ⟨a, rest, _, rfl, hentry, ?_, ?_⟩⟩
          · exact (matches_iff hresults).mpr hmatched
          · rwa [List.append_nil]
      | false =>
          have hnot : ¬ Matches conversions sources a.1 := by
            rw [matches_iff hresults, hmatched]
            exact Bool.false_ne_true
          rw [if_neg (by rw [hmatched]; exact Bool.false_ne_true)] at h
          obtain ⟨passed, entries, hentries, hpassed, hcases⟩ := ih h
          refine ⟨a :: passed, _ :: entries, .cons hentry hentries, ?_, ?_⟩
          · rintro b hb
            rcases List.mem_cons.mp hb with rfl | hb
            · exact hnot
            · exact hpassed b hb
          · rcases hcases with ⟨first, later, entry, rfl, hfirst⟩ | ⟨rfl, hdefault⟩
            · refine .inl ⟨first, later, entry, rfl, ?_⟩
              rwa [List.append_assoc trace, List.singleton_append] at hfirst
            · refine .inr ⟨rfl, ?_⟩
              rwa [List.append_assoc trace, List.singleton_append] at hdefault

/-- Where rules that match decide, the loop returns exactly if every rule that it comes to can be
evaluated. -/
theorem evaluateRules_isOk {policy : Policy}
    (hdefault : ∀ trace, ∃ decision, decideByDefault conversions policy trace = .ok decision) :
    ∀ {placed : List Placed} {trace : List Members},
      (∀ a ∈ placed, ∀ trace, ∃ decision,
        decideByRule conversions policy a.1 trace = .ok decision) →
      ((∃ decision, evaluateRules conversions sources policy trace placed = .ok decision) ↔
        ∀ passed a later, placed = passed ++ a :: later →
          (∀ b ∈ passed, ¬ Matches conversions sources b.1) →
          ∃ results, conditionResults conversions sources a.1 = .ok results) := by
  intro placed
  induction placed with
  | nil =>
      intro trace _
      refine iff_of_true (hdefault trace) fun passed a later h => ?_
      exact absurd h.symm (by simp)
  | cons first rest ih =>
      intro trace hdecides
      constructor
      · rintro ⟨decision, h⟩ passed a later hplaced hpassed
        unfold evaluateRules at h
        obtain ⟨results, hresults, h⟩ := bind_eq_ok h
        cases passed with
        | nil =>
            obtain ⟨rfl, -⟩ := List.cons.inj hplaced
            exact ⟨results, hresults⟩
        | cons b passed =>
            obtain ⟨rfl, hrest⟩ := List.cons.inj hplaced
            have hnot : ¬ allMatched results = true :=
              fun hmatched => hpassed first List.mem_cons_self ((matches_iff hresults).mpr hmatched)
            rw [if_neg hnot] at h
            exact (ih fun a ha => hdecides a (List.mem_cons_of_mem _ ha)).mp ⟨decision, h⟩ passed a
              later hrest fun b hb => hpassed b (List.mem_cons_of_mem _ hb)
      · intro h
        obtain ⟨results, hresults⟩ := h [] first rest rfl nofun
        unfold evaluateRules
        rw [hresults]
        show ∃ decision, (if allMatched results = true then
            decideByRule conversions policy first.1 (trace ++ [ruleEntry first.1 results])
          else evaluateRules conversions sources policy (trace ++ [ruleEntry first.1 results]) rest)
            = .ok decision
        cases hmatched : allMatched results with
        | true =>
            rw [if_pos rfl]
            exact hdecides first List.mem_cons_self _
        | false =>
            rw [if_neg Bool.false_ne_true]
            refine (ih fun a ha => hdecides a (List.mem_cons_of_mem _ ha)).mpr ?_
            intro passed a later hplaced hpassed
            refine h (first :: passed) a later (congrArg _ hplaced) fun b hb => ?_
            rcases List.mem_cons.mp hb with rfl | hb
            · rw [matches_iff hresults, hmatched]
              exact Bool.false_ne_true
            · exact hpassed b hb

/-- The loop asks nothing of the positions. -/
theorem evaluateRules_congr {policy : Policy} :
    ∀ {placed placed' : List Placed} {trace : List Members},
      placed.map (·.1) = placed'.map (·.1) →
      evaluateRules conversions sources policy trace placed
        = evaluateRules conversions sources policy trace placed' := by
  intro placed
  induction placed with
  | nil =>
      intro placed' trace h
      cases placed' with
      | nil => rfl
      | cons _ _ => cases h
  | cons a rest ih =>
      intro placed' trace h
      cases placed' with
      | nil => cases h
      | cons b rest' =>
          obtain ⟨hhead, htail⟩ := List.cons.inj h
          have hhead : a.1 = b.1 := hhead
          unfold evaluateRules
          simp only [hhead, fun trace => @ih rest' trace htail]

end

/-! ### Decisions -/

theorem decisionState_ok {value : Json} {state : DecisionState}
    (h : decisionState value = .ok state) : value = .str state.value := by
  unfold decisionState at h
  split at h
  · next found hfind =>
      cases h
      have hvalue : decide (Json.str state.value = value) = true := by
        simpa only using List.find?_some hfind
      exact (of_decide_eq_true hvalue).symm
  · cases h

/-- What a rule that has matched decides. -/
structure Decided (conversions : Conversions) (rule : Members) (decision : PolicyDecision) :
    Prop where
  state : subscript rule "decision" = .ok (.str decision.state.value)
  ruleId : subscript rule "rule_id" = .ok decision.matchedRuleId
  approval : approvalRequirementForRule conversions rule decision.state
    = .ok decision.approvalRequirement
  evidence : evidenceRequirementForRule conversions rule decision.state
    = .ok decision.evidenceRequirement

/-- What a policy decides when no rule has matched. -/
structure Defaulted (conversions : Conversions) (policy : Policy) (decision : PolicyDecision) :
    Prop where
  state : decision.state = policy.defaultDecision
  ruleId : decision.matchedRuleId = .null
  approval : approvalRequirementForRule conversions [] policy.defaultDecision
    = .ok decision.approvalRequirement
  evidence : evidenceRequirementForRule conversions [] policy.defaultDecision
    = .ok decision.evidenceRequirement

section

variable {conversions : Conversions} {policy : Policy} {decision : PolicyDecision}
  {trace : List Members}

theorem decideByRule_ok {rule : Members}
    (h : decideByRule conversions policy rule trace = .ok decision) :
    Decided conversions rule decision ∧ decision.trace = trace := by
  unfold decideByRule at h
  obtain ⟨value, hvalue, h⟩ := bind_eq_ok h
  obtain ⟨state, hstate, h⟩ := bind_eq_ok h
  obtain ⟨ruleId, hruleId, h⟩ := bind_eq_ok h
  obtain ⟨approval, happroval, h⟩ := bind_eq_ok h
  obtain ⟨evidence, hevidence, h⟩ := bind_eq_ok h
  cases h
  obtain rfl := decisionState_ok hstate
  exact ⟨⟨hvalue, hruleId, happroval, hevidence⟩, rfl⟩

theorem decideByDefault_ok (h : decideByDefault conversions policy trace = .ok decision) :
    Defaulted conversions policy decision ∧ decision.trace = trace ++ [defaultEntry policy] := by
  unfold decideByDefault at h
  obtain ⟨approval, happroval, h⟩ := bind_eq_ok h
  obtain ⟨evidence, hevidence, h⟩ := bind_eq_ok h
  cases h
  exact ⟨⟨rfl, rfl, happroval, hevidence⟩, rfl⟩

end

/-! ### The first rule that matches -/

section

variable (conversions : Conversions) (sources : Sources) (policy : Policy)

/-- The trace of these rules: their evaluations, in the order of their priorities and positions. -/
def TraceOf (placed : Placed → Prop) (trace : List Members) : Prop :=
  ∃ order : List Placed, (order.Pairwise fun a b => before a b = true) ∧
    (∀ a, a ∈ order ↔ a ∈ policy.rules.zipIdx ∧ placed a) ∧
    List.Forall₂ (Evaluates conversions sources) order trace

/-- The decision is that of the least rule that matches. -/
structure ByFirst (first : Placed) (decision : PolicyDecision) : Prop where
  mem : first ∈ policy.rules.zipIdx
  holds : Matches conversions sources first.1
  least : ∀ other ∈ policy.rules.zipIdx, Matches conversions sources other.1 →
    other = first ∨ before first other = true
  decided : Decided conversions first.1 decision
  trace : TraceOf conversions sources policy (fun a => a = first ∨ before a first = true)
    decision.trace

/-- No rule matches, and the decision is the default one. -/
structure ByDefault (decision : PolicyDecision) : Prop where
  unmatched : ∀ rule ∈ policy.rules, ¬ Matches conversions sources rule
  defaulted : Defaulted conversions policy decision
  trace : ∃ trace, TraceOf conversions sources policy (fun _ => True) trace ∧
    decision.trace = trace ++ [defaultEntry policy]

variable {conversions sources policy}

theorem evaluateRules_decides {order : List Placed} {decision : PolicyDecision}
    (horder : InOrder policy.rules order)
    (h : evaluateRules conversions sources policy [] order = .ok decision) :
    (∃ first, ByFirst conversions sources policy first decision) ∨
      ByDefault conversions sources policy decision := by
  obtain ⟨passed, entries, hentries, hpassed, ⟨first, later, entry, rfl, hentry, hmatches, h⟩ |
    ⟨rfl, h⟩⟩ := evaluateRules_ok h
  · obtain ⟨hdecided, htrace⟩ := decideByRule_ok h
    refine .inl ⟨first, ?_, hmatches, fun other hother hother' => ?_, hdecided, ?_⟩
    · exact (horder.mem first).mp (List.mem_append_right _ List.mem_cons_self)
    · exact least_of_passed horder.sorted hpassed ((horder.mem other).mpr hother) hother'
    · refine ⟨passed ++ [first], ?_, fun a => ?_, ?_⟩
      · have hsub : (passed ++ [first]).Sublist (passed ++ first :: later) :=
          (List.Sublist.refl passed).append (List.singleton_sublist.mpr List.mem_cons_self)
        exact horder.sorted.sublist hsub
      · have hmem := mem_passed (a := a) before_asymm horder.sorted
        rw [horder.mem a] at hmem
        rw [List.mem_append, hmem, List.mem_singleton]
        constructor
        · rintro (⟨ha, hbefore⟩ | rfl)
          · exact ⟨ha, .inr hbefore⟩
          · exact ⟨(horder.mem a).mp (List.mem_append_right _ List.mem_cons_self), .inl rfl⟩
        · rintro ⟨ha, rfl | hbefore⟩
          · exact .inr rfl
          · exact .inl ⟨ha, hbefore⟩
      · rw [htrace, List.nil_append]
        exact List.rel_append hentries (.cons hentry .nil)
  · obtain ⟨hdefaulted, htrace⟩ := decideByDefault_ok h
    refine .inr ⟨fun rule hrule => ?_, hdefaulted, entries, ⟨order, horder.sorted, ?_, hentries⟩, ?_⟩
    · rw [← List.zipIdx_map_fst 0 policy.rules] at hrule
      obtain ⟨a, ha, rfl⟩ := List.mem_map.mp hrule
      exact hpassed a ((horder.mem a).mpr ha)
    · intro a
      rw [horder.mem a]
      simp
    · rwa [List.nil_append] at htrace

end

/-! ### Rearranged rules -/

/-- The rules with those of different priorities mixed in another way. -/
structure Rearranged (rules rules' : List Members) : Prop where
  perm : rules.Perm rules'
  levels : ∀ priority, rules.filter (fun rule => same (priorityOf rule) priority)
    = rules'.filter fun rule => same (priorityOf rule) priority

/-- The decision with other rules in its policy. -/
def PolicyDecision.withRules (decision : PolicyDecision) (rules : List Members) : PolicyDecision :=
  { decision with policy := decision.policy.map fun policy => { policy with rules := rules } }

theorem Rearranged.filter_level {rules rules' : List Members} (h : Rearranged rules rules')
    (k : Json) : rules.filter (level · = k) = rules'.filter (level · = k) := by
  by_cases hk : ∃ priority, plain priority = k
  · obtain ⟨priority, rfl⟩ := hk
    exact h.levels priority
  · have hnone : ∀ {list : List Members}, list.filter (level · = k) = [] := by
      intro list
      rw [List.filter_eq_nil_iff]
      intro rule _ hrule
      exact hk ⟨_, of_decide_eq_true hrule⟩
    rw [hnone, hnone]

theorem orderedRules_rearranged {rules rules' : List Members} {order : List Placed}
    (h : Rearranged rules rules') (horder : orderedRules rules = .ok order) :
    ∃ order', orderedRules rules' = .ok order' ∧ order.map (·.1) = order'.map (·.1) := by
  have hall : (rules'.all fun a => rules'.all (comparable a))
      = rules.all fun a => rules.all (comparable a) := by
    rw [h.perm.symm.all_eq]
    congr
    funext a
    exact h.perm.symm.all_eq
  cases horder' : orderedRules rules' with
  | ok order' =>
      exact ⟨order', rfl, (orderedRules_inOrder horder).map_eq (orderedRules_inOrder horder')
        h.filter_level⟩
  | error e =>
      unfold orderedRules at horder horder'
      rw [hall] at horder'
      split at horder
      · next hcomparable =>
          rw [if_pos hcomparable] at horder'
          cases horder'
      · cases horder

section

variable {conversions : Conversions} {sources : Sources} {policy : Policy} {rules : List Members}

theorem evaluateRules_withRules {decision : PolicyDecision} :
    ∀ {placed : List Placed} {trace : List Members},
      evaluateRules conversions sources policy trace placed = .ok decision →
      evaluateRules conversions sources { policy with rules := rules } trace placed
        = .ok (decision.withRules rules) := by
  intro placed
  induction placed with
  | nil =>
      intro trace h
      unfold evaluateRules decideByDefault at h ⊢
      obtain ⟨approval, happroval, h⟩ := bind_eq_ok h
      obtain ⟨evidence, hevidence, h⟩ := bind_eq_ok h
      cases h
      simp only [happroval, hevidence]
      rfl
  | cons a rest ih =>
      intro trace h
      unfold evaluateRules at h ⊢
      obtain ⟨results, hresults, h⟩ := bind_eq_ok h
      rw [hresults]
      show (if _ then _ else _) = _
      cases hmatched : allMatched results with
      | false =>
          rw [if_neg (by rw [hmatched]; exact Bool.false_ne_true)] at h
          rw [if_neg Bool.false_ne_true]
          exact ih h
      | true =>
          rw [if_pos hmatched] at h
          rw [if_pos rfl]
          unfold decideByRule at h ⊢
          obtain ⟨value, hvalue, h⟩ := bind_eq_ok h
          obtain ⟨state, hstate, h⟩ := bind_eq_ok h
          obtain ⟨ruleId, hruleId, h⟩ := bind_eq_ok h
          obtain ⟨approval, happroval, h⟩ := bind_eq_ok h
          obtain ⟨evidence, hevidence, h⟩ := bind_eq_ok h
          cases h
          simp only [hvalue, hruleId]
          show (do let decision ← decisionState value; _) = _
          simp only [hstate]
          show (do let approval ← approvalRequirementForRule conversions a.1 state; _) = _
          simp only [happroval]
          show (do let evidence ← evidenceRequirementForRule conversions a.1 state; _) = _
          simp only [hevidence]
          rfl

end

/-! ### Evaluation -/

section

variable (conversions : Conversions) (actionIntent intakeContext evaluationContext : Members)
  (policy : Option Policy) (validation : ContractValidationResult)

/-- A hard rule applies. -/
def HardRuleApplies : Prop :=
  validation.supported = false ∨ validation.valid = false ∨
    truthy (memberOf intakeContext "workflow_mismatch") = true ∨
    truthy (memberOf intakeContext "routing_mismatch") = true ∨
    same (memberOf actionIntent "source_account_ref")
      (memberOf actionIntent "destination_account_ref") = true

/-- There is no policy, or its action classes exclude the action type. -/
def OutOfScope : Prop :=
  policy = none ∨ ∃ p, policy = some p ∧ p.financeActionClasses ≠ [] ∧
    memberOf actionIntent "action_type" ∉ p.financeActionClasses.map Json.str

/-- The policy leaves the decision of the hard rules to them. -/
def Reserves (p : Policy) : Prop :=
  p.defaultDecision ≠ .structurallyNonExecutable ∧
    ∀ rule ∈ p.rules, memberOf rule "decision" ≠ .str "structurally_non_executable"

/-- What `evaluate` returns. -/
structure Evaluated (decision : PolicyDecision) : Prop where
  structural : decision.state = .structurallyNonExecutable ↔
    HardRuleApplies actionIntent intakeContext validation
  denied : ¬ HardRuleApplies actionIntent intakeContext validation →
    OutOfScope actionIntent policy → decision.state = .deny ∧ decision.matchedRuleId = .null
  ruled : ¬ HardRuleApplies actionIntent intakeContext validation → ∀ p, policy = some p →
    ¬ OutOfScope actionIntent policy →
      (∃ first, ByFirst conversions ⟨actionIntent, evaluationContext, intakeContext⟩ p first
        decision) ∨
      ByDefault conversions ⟨actionIntent, evaluationContext, intakeContext⟩ p decision
  rearranged : ∀ p, policy = some p → ∀ rules, Rearranged p.rules rules →
    evaluate conversions actionIntent intakeContext evaluationContext
        (some { p with rules := rules }) validation = .ok (decision.withRules rules)

end

/-- Nothing but a text equals a text. -/
theorem same_str {value : Json} {text : String} :
    same value (.str text) = true ↔ value = .str text := by
  unfold same
  rw [decide_eq_true_eq]
  cases value <;> simp [plain]

theorem excludes_iff {p : Policy} {actionType : Json} : excludes p actionType = true ↔
    p.financeActionClasses ≠ [] ∧ actionType ∉ p.financeActionClasses.map Json.str := by
  have hisIn : isIn actionType (p.financeActionClasses.map .str) = true ↔
      actionType ∈ p.financeActionClasses.map Json.str := by
    unfold isIn
    rw [List.any_eq_true]
    constructor
    · rintro ⟨item, hitem, hsame⟩
      obtain ⟨text, -, rfl⟩ := List.mem_map.mp hitem
      rwa [same_str.mp hsame]
    · intro hmem
      exact ⟨actionType, hmem, decide_eq_true rfl⟩
  unfold excludes
  rw [Bool.and_eq_true, Bool.not_eq_true', Bool.not_eq_true', ← hisIn, Bool.not_eq_true,
    List.isEmpty_eq_false_iff]

section

variable {conversions : Conversions} {actionIntent intakeContext evaluationContext : Members}
  {policy : Option Policy} {validation : ContractValidationResult}

/-- A hard rule decides without the policy. -/
theorem evaluate_hard (h : HardRuleApplies actionIntent intakeContext validation) :
    ∃ reason entry, ∀ policy,
      evaluate conversions actionIntent intakeContext evaluationContext policy validation
        = .ok (decideWithout .structurallyNonExecutable reason entry) := by
  unfold evaluate hardRule
  cases hsupported : validation.supported with
  | false => exact ⟨_, _, fun _ => rfl⟩
  | true =>
      cases hvalid : validation.valid with
      | false => exact ⟨_, _, fun _ => rfl⟩
      | true =>
          cases hmismatch : truthy (memberOf intakeContext "workflow_mismatch")
              || truthy (memberOf intakeContext "routing_mismatch") with
          | true => exact ⟨_, _, fun _ => rfl⟩
          | false =>
              obtain ⟨hworkflow, hrouting⟩ := Bool.or_eq_false_iff.mp hmismatch
              have hsame : same (memberOf actionIntent "source_account_ref")
                  (memberOf actionIntent "destination_account_ref") = true := by
                simpa [HardRuleApplies, hsupported, hvalid, hworkflow, hrouting] using h
              rw [hsame]
              exact ⟨_, _, fun _ => rfl⟩

/-- Where no hard rule applies, the policy decides. -/
theorem evaluate_soft (h : ¬ HardRuleApplies actionIntent intakeContext validation) :
    evaluate conversions actionIntent intakeContext evaluationContext policy validation
      = evaluatePolicy conversions ⟨actionIntent, evaluationContext, intakeContext⟩ policy := by
  unfold HardRuleApplies at h
  simp only [not_or, Bool.not_eq_false, Bool.not_eq_true] at h
  obtain ⟨hsupported, hvalid, hworkflow, hrouting, hsame⟩ := h
  unfold evaluate
  simp [hsupported, hvalid, hworkflow, hrouting, hsame]

theorem not_structural_of_byFirst {sources : Sources} {p : Policy} (hreserves : Reserves p)
    {first : Placed} {decision : PolicyDecision}
    (h : ByFirst conversions sources p first decision) :
    decision.state ≠ .structurallyNonExecutable := by
  intro hstate
  have hdecision := h.decided.state
  rw [hstate] at hdecision
  refine hreserves.2 first.1 (mem_of_mem_zipIdx h.mem) ?_
  unfold subscript at hdecision
  unfold memberOf
  split at hdecision
  · next value hvalue =>
      rw [hvalue]
      exact Except.ok.inj hdecision
  · cases hdecision

/-- What the policy decides, where its action classes do not exclude the action type. -/
theorem evaluatePolicy_ruled {sources : Sources} {p : Policy} {decision : PolicyDecision}
    (hscope : excludes p (memberOf sources.actionIntent "action_type") = false)
    (h : evaluatePolicy conversions sources (some p) = .ok decision) :
    (∃ first, ByFirst conversions sources p first decision) ∨
      ByDefault conversions sources p decision := by
  unfold evaluatePolicy at h
  simp only [hscope, Bool.false_eq_true, if_false] at h
  obtain ⟨order, horder, h⟩ := bind_eq_ok h
  exact evaluateRules_decides (orderedRules_inOrder horder) h

theorem evaluatePolicy_rearranged {sources : Sources} {p : Policy} {decision : PolicyDecision}
    {rules : List Members} (hrules : Rearranged p.rules rules)
    (h : evaluatePolicy conversions sources (some p) = .ok decision) :
    evaluatePolicy conversions sources (some { p with rules := rules })
      = .ok (decision.withRules rules) := by
  unfold evaluatePolicy excludes at *
  simp only at h ⊢
  split at h
  · next hexcluded =>
      rw [if_pos hexcluded]
      cases h
      rfl
  · next hincluded =>
      rw [if_neg hincluded]
      obtain ⟨order, horder, h⟩ := bind_eq_ok h
      obtain ⟨order', horder', hmap⟩ := orderedRules_rearranged hrules horder
      rw [horder']
      show evaluateRules conversions sources _ [] order' = _
      rw [← evaluateRules_congr hmap]
      exact evaluateRules_withRules h

/-- **The least rule that matches decides.**  An evaluation that does not raise leaves to the hard
rules what is theirs, denies what has no policy or is out of its scope, and otherwise decides as
the first matching rule in the order of priority and position, or by default. -/
theorem evaluate_spec (conversions : Conversions)
    (actionIntent intakeContext evaluationContext : Members) (policy : Option Policy)
    (validation : ContractValidationResult) (decision : PolicyDecision)
    (hreserves : ∀ p, policy = some p → Reserves p)
    (h : evaluate conversions actionIntent intakeContext evaluationContext policy validation
      = .ok decision) :
    Evaluated conversions actionIntent intakeContext evaluationContext policy validation
      decision := by
  by_cases hhard : HardRuleApplies actionIntent intakeContext validation
  · obtain ⟨reason, entry, hdecides⟩ := @evaluate_hard conversions actionIntent intakeContext
      evaluationContext validation hhard
    rw [hdecides] at h
    cases h
    refine ⟨iff_of_true rfl hhard, fun hnot => absurd hhard hnot, fun hnot => absurd hhard hnot, ?_⟩
    intro p _ rules _
    rw [hdecides]
    rfl
  · have hsoft := h
    rw [evaluate_soft hhard] at hsoft
    have hdenied : OutOfScope actionIntent policy → decision.state = .deny ∧
        decision.matchedRuleId = .null := by
      rintro (rfl | ⟨p, rfl, hexcluded⟩)
      · cases hsoft
        exact ⟨rfl, rfl⟩
      · have hexcludes := excludes_iff.mpr hexcluded
        unfold evaluatePolicy at hsoft
        simp only [hexcludes, if_true] at hsoft
        cases hsoft
        exact ⟨rfl, rfl⟩
    have hruled : ∀ p, policy = some p → ¬ OutOfScope actionIntent policy →
        (∃ first, ByFirst conversions ⟨actionIntent, evaluationContext, intakeContext⟩ p first
          decision) ∨
        ByDefault conversions ⟨actionIntent, evaluationContext, intakeContext⟩ p decision := by
      rintro p rfl hscope
      have hincluded : excludes p (memberOf actionIntent "action_type") = false := by
        rw [← Bool.not_eq_true]
        exact fun hexcludes => hscope (.inr ⟨p, rfl, excludes_iff.mp hexcludes⟩)
      exact evaluatePolicy_ruled hincluded hsoft
    refine ⟨iff_of_false (fun hstate => ?_) hhard, fun _ => hdenied, fun _ => hruled, ?_⟩
    · by_cases hscope : OutOfScope actionIntent policy
      · rw [(hdenied hscope).1] at hstate
        cases hstate
      · cases policy with
        | none => exact hscope (.inl rfl)
        | some p =>
            rcases hruled p rfl hscope with ⟨first, hfirst⟩ | hdefault
            · exact not_structural_of_byFirst (hreserves p rfl) hfirst hstate
            · exact (hreserves p rfl).1 (hdefault.defaulted.state.symm.trans hstate)
    · rintro p rfl rules hrules
      rw [evaluate_soft hhard]
      exact evaluatePolicy_rearranged hrules hsoft

end

/-! A payment that a rule sends to approval, behind a rule of higher priority that does not match. -/

/-- Payments from 1000 on need an approval; those of low risk do not. -/
def samplePolicy : Policy where
  policyId := "policy_1"
  tenantId := "tenant_1"
  name := "payments"
  description := none
  workflowKey := "payments"
  version := 1
  status := .active
  defaultDecision := .deny
  financeActionClasses := ["payment"]
  rules := [
    [("rule_id", .str "large"), ("priority", .num 20), ("decision", .str "approval_required"),
      ("all_conditions", .arr [.obj [("source", .str "action_intent"),
        ("field", .str "amount_minor"), ("operator", .str "gte"), ("value", .num 1000)]])],
    [("rule_id", .str "trusted"), ("priority", .num 10), ("decision", .str "allow"),
      ("all_conditions", .arr [.obj [("source", .str "context"), ("field", .str "risk.tier"),
        ("operator", .str "equals"), ("value", .str "low")]])]]
  createdAt := 0
  updatedAt := 0

/-- The payload of a payment. -/
def samplePayment : Members :=
  [("action_type", .str "payment"), ("amount_minor", .num 5000),
    ("source_account_ref", .str "a"), ("destination_account_ref", .str "b")]

/-- A context that calls it risky. -/
def sampleContext : Members := [("risk", .obj [("tier", .str "high")])]

/-- Conversions, of which nothing is used here. -/
def sampleConversions : Conversions := ⟨fun _ => "", fun _ => none⟩

/-- The approval that the rule of the sample policy asks for. -/
def sampleDecision : PolicyDecision where
  state := .approvalRequired
  reason := "policy rule 'large' matched"
  matchedRuleId := .str "large"
  trace := [
    ruleEntry (samplePolicy.rules.getD 1 []) [⟨.str "context", .str "risk.tier", .str "equals",
      .str "low", .str "high", false⟩],
    ruleEntry (samplePolicy.rules.getD 0 []) [⟨.str "action_intent", .str "amount_minor",
      .str "gte", .num 1000, .num 5000, true⟩]]
  policy := some samplePolicy
  approvalRequirement := some ⟨1, [], [], .str "large", .null, .bool true, .bool true⟩
  evidenceRequirement := none

theorem evaluate_spec_sample :
    Evaluated sampleConversions samplePayment [] sampleContext (some samplePolicy)
      ⟨true, true, []⟩ sampleDecision := by
  refine evaluate_spec _ _ _ _ _ _ _ ?_ ?_
  · rintro _ ⟨⟩
    exact ⟨by decide, by decide⟩
  · rfl

end ControlPlane.PolicyEngine
