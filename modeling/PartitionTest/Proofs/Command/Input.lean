import PartitionTest.Command
import PartitionTest.Proofs.Case.Coverage
import PartitionTest.Proofs.Domain
import PartitionTest.Proofs.Json.Values
import PartitionTest.Proofs.Text.Words

/-! What a command reads. The values of a case are sent as lines, so a command
can tell them apart unless one of them is the line feed. -/
namespace PartitionTest

namespace Scalar

theorem newline_mem_text {v : Scalar} : '\n' ∈ v.text.toList ↔ v = .char '\n' := by
  cases v with
  | bool b => cases b <;> decide
  | int n => simpa [text] using Json.newline_not_mem_intChars n.toInt
  | char c => simp [text, eq_comm]

theorem count_text (v : Scalar) :
    v.text.toList.count '\n' = if v = .char '\n' then 1 else 0 := by
  split
  · subst v
    rfl
  · rename_i other
    exact List.count_eq_zero.mpr (mt newline_mem_text.mp other)

end Scalar

namespace Command

theorem payload_eq_ended (c : Case) :
    payload c = Text.ended (c.values.map Scalar.text) := by
  rw [Case.values, List.map_map]
  rfl

theorem count_payload (c : Case) :
    (payload c).toList.count '\n' = c.values.length + c.values.count (.char '\n') := by
  have feeds : ((c.values.map Scalar.text).flatMap String.toList).count '\n' =
      c.values.count (.char '\n') := by
    induction c.values with
    | nil => rfl
    | cons v vs ih =>
      rw [List.map_cons, List.flatMap_cons, List.count_append, Scalar.count_text, ih,
        List.count_cons, Nat.add_comm]
      simp only [beq_iff_eq]
  rw [payload_eq_ended, Text.count_ended, List.length_map, feeds]

theorem splitOn_payload {c : Case} (h : .char '\n' ∉ c.values) :
    (payload c).toList.splitOn '\n' = c.values.map (·.text.toList) ++ [[]] := by
  have clear : ∀ text ∈ c.values.map Scalar.text, '\n' ∉ text.toList := by
    intro text ht
    obtain ⟨v, hv, rfl⟩ := List.mem_map.mp ht
    exact fun feed => h (Scalar.newline_mem_text.mp feed ▸ hv)
  rw [payload_eq_ended, Text.splitOn_ended clear, List.map_map]
  rfl

end Command

/-- An input with a line for each variable: as many line feeds as variables,
and at the place of each variable the text of its value. -/
structure Case.OnLines (c : Case) (xs : List Variable) (input : String) : Prop where
  count : input.toList.count '\n' = xs.length
  line : ∀ (k : Nat) (x : Variable), xs[k]? = some x → ∃ v, c.valueOf x.name = some v ∧
    (input.toList.splitOn '\n')[k]? = some v.text.toList

namespace Plan

variable {xs : List Variable} {c : Case} {sampling : Option Sampling}

theorem map_variableName_of_mem_generate (parts : ∀ x ∈ xs, x.IsPartition)
    (sound : ∀ x ∈ xs, x.Sound) (hc : c ∈ (ofVars xs).generate sampling) :
    c.assignments.map (·.variableName) = xs.map (·.name) := by
  obtain ⟨id, focus, kind, vs, admits, rfl⟩ := makes_of_mem_generate parts sound hc
  rw [Assignment.map_variableName_of_fits (makeCase_fits admits parts id focus kind), ofVars,
    List.map_map]
  rfl

theorem admits_of_mem_generate (parts : ∀ x ∈ xs, x.IsPartition) (sound : ∀ x ∈ xs, x.Sound)
    (hc : c ∈ (ofVars xs).generate sampling) : Admits xs c.values := by
  obtain ⟨id, focus, kind, vs, admits, rfl⟩ := makes_of_mem_generate parts sound hc
  rwa [values_makeCase admits]

end Plan

namespace Case

variable {xs : List Variable} {c : Case}

/-- Where the assignments bear the names of the variables, in order, the value
found under the name of each is the one at its place. -/
theorem valueOf_of_map_variableName (names : c.assignments.map (·.variableName) = xs.map (·.name))
    (apart : (xs.map (·.name)).Nodup) {k : Nat} {x : Variable} (hx : xs[k]? = some x) :
    ∃ v, c.valueOf x.name = some v ∧ c.values[k]? = some v := by
  have named : (c.assignments.map (·.variableName))[k]? = some x.name := by
    rw [names, List.getElem?_map, hx, Option.map_some]
  rw [List.getElem?_map] at named
  obtain ⟨a, ha, same⟩ := Option.map_eq_some_iff.mp named
  refine ⟨a.value, ?_, ?_⟩
  · rw [← same]
    exact valueOf_of_nodup (names ▸ apart) (List.mem_of_getElem? ha)
  · rw [values, List.getElem?_map, ha, Option.map_some]

theorem onLines_payload_iff (names : c.assignments.map (·.variableName) = xs.map (·.name))
    (apart : (xs.map (·.name)).Nodup) :
    c.OnLines xs (Command.payload c) ↔ .char '\n' ∉ c.values := by
  have length : c.values.length = xs.length := by
    simpa [values] using congrArg List.length names
  constructor
  · intro h
    have count := h.count
    rw [Command.count_payload, length] at count
    exact List.count_eq_zero.mp (by omega)
  · intro clear
    refine ⟨?_, fun k x hx => ?_⟩
    · rw [Command.count_payload, List.count_eq_zero.mpr clear, length, Nat.add_zero]
    · obtain ⟨v, found, place⟩ := valueOf_of_map_variableName names apart hx
      have inside : k < (c.values.map (·.text.toList)).length := by
        rw [List.length_map]
        exact (List.getElem?_eq_some_iff.mp place).1
      refine ⟨v, found, ?_⟩
      rw [Command.splitOn_payload clear, List.getElem?_append_left inside, List.getElem?_map,
        place, Option.map_some]

end Case

theorem Command.input_launch {command : Command} (h : command.settings.input = .stdin)
    (c : Case) : (command.launch c).input = payload c := by
  rw [launch, h]

namespace Model

/-- What a command reads for a case of a valid model has a line feed for each
variable and one more for each value that is the line feed. The variables are
on lines of their own just when no value is. -/
theorem generate_onLines_iff {m : Model} (reachable : m.Reachable)
    (valid : m.isValidated = true) :
    ∃ p, Plan.ofModel m = .ok p ∧
      (∀ command : Command, command.settings.input = .stdin →
        ∀ (sampling : Option Sampling), ∀ c ∈ p.generate sampling,
          (command.launch c).input.toList.count '\n' =
            m.vars.length + c.values.count (.char '\n') ∧
          (c.OnLines m.vars (command.launch c).input ↔ .char '\n' ∉ c.values)) ∧
      ((∀ x ∈ m.vars, .char '\n' ∉ x.domain.values) →
        ∀ command : Command, command.settings.input = .stdin →
          ∀ (sampling : Option Sampling), ∀ c ∈ p.generate sampling,
            c.OnLines m.vars (command.launch c).input) := by
  have sound := reachable.sound
  have parts := (sound.tables_eq valid).2
  have lines {sampling : Option Sampling} {c : Case}
      (hc : c ∈ (Plan.ofVars m.vars).generate sampling) :
      c.OnLines m.vars (Command.payload c) ↔ .char '\n' ∉ c.values :=
    Case.onLines_payload_iff (Plan.map_variableName_of_mem_generate parts sound.vars hc)
      sound.names
  refine ⟨Plan.ofVars m.vars, sound.plan valid, ?_, ?_⟩
  · intro command reads sampling c hc
    have length := (Plan.admits_of_mem_generate parts sound.vars hc).length_eq
    rw [Command.input_launch reads, Command.count_payload, ← length]
    exact ⟨rfl, lines hc⟩
  · intro clear command reads sampling c hc
    rw [Command.input_launch reads, lines hc]
    intro feed
    -- the value stands in the domain of the variable at its place
    have admits := Plan.admits_of_mem_generate parts sound.vars hc
    obtain ⟨k, hk, at_k⟩ := List.mem_iff_getElem.mp feed
    have hx : k < m.vars.length := admits.length_eq ▸ hk
    refine clear _ (List.getElem_mem hx) ?_
    rw [← at_k]
    exact List.Forall₂.get admits hx hk

theorem generate_onLines_iff_gauge :
    gauge.validate.2.Reachable ∧ gauge.validate.2.isValidated = true ∧
      ∃ p, Plan.ofModel gauge.validate.2 = .ok p ∧
        (∀ command : Command, command.settings.input = .stdin →
          ∀ (sampling : Option Sampling), ∀ c ∈ p.generate sampling,
            (command.launch c).input.toList.count '\n' =
              gauge.vars.length + c.values.count (.char '\n') ∧
            (c.OnLines gauge.vars (command.launch c).input ↔ .char '\n' ∉ c.values)) ∧
        ((∀ x ∈ gauge.vars, .char '\n' ∉ x.domain.values) →
          ∀ command : Command, command.settings.input = .stdin →
            ∀ (sampling : Option Sampling), ∀ c ∈ p.generate sampling,
              c.OnLines gauge.vars (command.launch c).input) :=
  ⟨reachable_gauge, isValidated_gauge, generate_onLines_iff reachable_gauge isValidated_gauge⟩

def separator : Model where
  vars := [{ name := "c", domain := .char ['a', '\n'], base := none, classes := [
    ⟨"text", .valid, .oneOf [.char 'a', .char '\n'], [.char '\n'], false⟩] }]

theorem reachable_separator : separator.validate.2.Reachable := by
  have accepted : (Domain.char ['a', '\n']).flaw? = none :=
    Domain.flaw?_eq_none_iff.mpr (by decide)
  have declared := Reachable.empty.step (.addVariable "c" (.char ['a', '\n']))
  rw [Operation.apply, Edit.addVariable_on, accepted] at declared
  exact (declared.step (.addClass "c"
    ⟨some "text", .valid, .oneOf [.char 'a', .char '\n'], [.char '\n'], false⟩)).step .validate

/-- A line feed is sent as two empty lines. -/
theorem generate_separator_not_onLines :
    ¬ ∀ m : Model, m.Reachable → m.isValidated = true →
      ∀ p, Plan.ofModel m = .ok p → ∀ (sampling : Option Sampling), ∀ c ∈ p.generate sampling,
        ∀ command : Command, command.settings.input = .stdin →
          c.OnLines m.vars (command.launch c).input := by
  intro onLines
  have valid : separator.validate.2.isValidated = true := by rfl
  have sound := reachable_separator.sound
  have parts := (sound.tables_eq valid).2
  obtain ⟨x, hx⟩ : ∃ x, separator.vars[0]? = some x := ⟨_, rfl⟩
  have border : x.Borders 0 (.char '\n') := by
    obtain rfl := Option.some.inj hx
    exact ⟨_, rfl, .inl (List.mem_singleton.mpr rfl)⟩
  obtain ⟨c, hc, values⟩ := List.mem_map.mp
    (Plan.set_base_mem_map_values_cases parts sound.vars hx border.mem_representatives)
  have lines := onLines _ reachable_separator valid _ (sound.plan valid) none c hc
    (Command.ofWords "cat" []) rfl
  have count := lines.count
  rw [Command.input_launch rfl, Command.count_payload, values] at count
  exact absurd count (by decide)

end Model

end PartitionTest
