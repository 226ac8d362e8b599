import SchemaBridge.JsonSchema.Basic

/-!
This module contains the subschemas of a schema, under whatever keyword they stand, and the induction
over them. Main statement: `JsonSchema.induction`.
-/

namespace SchemaBridge

namespace JsonSchema

variable {σ : Type}

def BoolOr.subschemas : BoolOr σ → List σ
  | .bool _ => []
  | .schema s => [s]

def slotSubschemas : Option (BoolOr σ) → List σ
  | none => []
  | some slot => slot.subschemas

def namedSubschemas : Option (List (String × σ)) → List σ
  | none => []
  | some members => members.map Prod.snd

def ArrayKeywords.subschemas (k : ArrayKeywords σ) : List σ :=
  k.prefixItems.getD [] ++ slotSubschemas k.additionalItems ++
    slotSubschemas k.unevaluatedItems ++ k.contains.toList

def ObjectKeywords.subschemas (k : ObjectKeywords σ) : List σ :=
  slotSubschemas k.additionalProperties ++ namedSubschemas k.patternProperties ++
    slotSubschemas k.unevaluatedProperties ++ k.allOf.getD [] ++ k.anyOf.getD [] ++
    k.oneOf.getD [] ++ k.negated.toList ++ k.condition.toList ++ k.consequent.toList ++
    k.alternative.toList ++ k.propertyNames.toList ++ namedSubschemas k.dependentSchemas

def Body.subschemas : Body σ → List σ
  | .array items k => slotSubschemas items ++ k.subschemas
  | .object properties _ k => namedSubschemas properties ++ k.subschemas
  | .union members => members.toList
  | _ => []

/--
A property holds of all schemas if it passes from the subschemas of a schema to the schema.
-/
theorem induction {P : JsonSchema → Prop}
    (step : ∀ annotations body, (∀ s ∈ Body.subschemas body, P s) → P ⟨annotations, body⟩)
    (s : JsonSchema)
    : P s := by
  apply fold.induct P
    (fun body => ∀ s ∈ body.subschemas, P s)
    (fun members => ∀ s ∈ members.toList, P s)
    (fun list => ∀ s ∈ list, P s)
    (fun k => ∀ s ∈ k.subschemas, P s)
    (fun s? => ∀ s ∈ s?.toList, P s)
    (fun list? => ∀ s ∈ list?.getD [], P s)
    (fun members? => ∀ s ∈ namedSubschemas members?, P s)
    (fun members => ∀ s ∈ members.map Prod.snd, P s)
    (fun slot => ∀ s ∈ slotSubschemas slot, P s)
    (fun k => ∀ s ∈ k.subschemas, P s)
    step
  all_goals
    simp +contextual [Body.subschemas, ArrayKeywords.subschemas, ObjectKeywords.subschemas,
      slotSubschemas, namedSubschemas, BoolOr.subschemas, TwoOrMore.toList, or_imp, forall_and]

end JsonSchema

end SchemaBridge
