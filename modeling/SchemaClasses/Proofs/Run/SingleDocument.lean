import SchemaClasses.Generation
import SchemaClasses.Proofs.Steps
import SchemaClasses.Proofs.Text.Bytes

/-!
# Generation from one document

A sink without a limit gets the bytes of the source of the class, if the text has a class.
-/

namespace SchemaClasses

variable {namespaceName fileName text : String} {node : Schema.Node} {classDef : ClassDef}
  {sink : Sink}

theorem ClassDef.ofText_of_read (read : Schema.Node.ofDocument text = .ok node)
    (objectTyped : node.isObjectTyped = true) :
    ofText namespaceName fileName text = ofDocument namespaceName fileName node := by
  unfold ofText readDocument
  rw [read]
  change (if node.isObjectTyped = true then _ else _) = _
  rw [if_pos objectTyped]

theorem generateTo_unlimited_of_ofText
    (made : ClassDef.ofText namespaceName fileName text = .ok classDef) :
    generateTo namespaceName fileName text (Sink.empty none) =
      (.ok (), ⟨none, (Sink.bytes (CSharp.source classDef)).toArray⟩) := by
  unfold generateTo
  simp only [made, Sink.empty, Sink.writeAll_unlimited, Except.mapError, Sink.empty_append]
  rfl

/-- Nothing can fail any more once there is a class. -/
theorem generateTo_unlimited_eq_ok_iff :
    (generateTo namespaceName fileName text (Sink.empty none)).1 = .ok () ↔
      ∃ classDef, ClassDef.ofText namespaceName fileName text = .ok classDef := by
  cases made : ClassDef.ofText namespaceName fileName text with
  | error failure => simp [generateTo, made]
  | ok classDef => simp [generateTo_unlimited_of_ofText made]

end SchemaClasses
