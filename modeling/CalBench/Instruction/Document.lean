/-
Documents of instructions and their parameters.

The members are those of a driver library: ids are `_id`, kinds are `type`, and a field without a
value has no member.
-/
import CalBench.Instruction.Basic

namespace CalBench

open Json

instance : Shaped ListItem := ⟨.flat ["_id", "text", "value"]⟩

instance : Codec ListItem where
  encode i := record [field "_id" i.id, field "text" i.text, field "value" i.value]
  decode j := do
    let m ← members? (shape ListItem).names j
    return { id := ← m.required ["_id"], text := ← m.required ["text"], value := ← m.required ["value"] }

instance : Shaped Parameter := ⟨.record (
  Shape.wholes ["_id", "type", "prompt", "beforeText", "afterText", "required"] ++
  [(["listItems"], shape (List ListItem))] ++
  Shape.wholes ["trueValue", "falseValue", "useMin", "useMax", "min", "max", "useMinMaxIncrement",
    "minMaxIncrement", "default", "readResponseTag", "variableName"])⟩

instance : Codec Parameter where
  encode p := record [
    field "_id" p.id,
    field "type" p.kind,
    field "prompt" p.prompt,
    fieldIfSome "beforeText" p.beforeText,
    fieldIfSome "afterText" p.afterText,
    fieldIfSome "required" p.required,
    fieldIfSome "listItems" p.listItems,
    fieldIfSome "trueValue" p.trueValue,
    fieldIfSome "falseValue" p.falseValue,
    fieldIfSome "useMin" p.useMin,
    fieldIfSome "useMax" p.useMax,
    fieldIfSome "min" p.min,
    fieldIfSome "max" p.max,
    fieldIfSome "useMinMaxIncrement" p.useStep,
    fieldIfSome "minMaxIncrement" p.step,
    fieldIfSome "default" p.default,
    fieldIfSome "readResponseTag" p.responseTag,
    fieldIfSome "variableName" p.variableName]
  decode j := do
    let m ← members? (shape Parameter).names j
    return {
      id := ← m.required ["_id"]
      kind := ← m.required ["type"]
      prompt := ← m.defaulted ["prompt"] ""
      beforeText := ← m.optional ["beforeText"]
      afterText := ← m.optional ["afterText"]
      required := ← m.optional ["required"]
      listItems := ← m.optional ["listItems"]
      trueValue := ← m.optional ["trueValue"]
      falseValue := ← m.optional ["falseValue"]
      useMin := ← m.optional ["useMin"]
      useMax := ← m.optional ["useMax"]
      min := ← m.optional ["min"]
      max := ← m.optional ["max"]
      useStep := ← m.optional ["useMinMaxIncrement"]
      step := ← m.optional ["minMaxIncrement"]
      default := ← m.optional ["default"]
      responseTag := ← m.optional ["readResponseTag"]
      variableName := ← m.optional ["variableName"] }

instance : Shaped ParameterArgument := ⟨.flat ["parameterId", "value"]⟩

instance : Codec ParameterArgument where
  encode a := record [field "parameterId" a.parameterId, field "value" a.value]
  decode j := do
    let m ← members? (shape ParameterArgument).names j
    return { parameterId := ← m.required ["parameterId"], value := ← m.required ["value"] }

instance : Shaped Instruction := ⟨.record (
  Shape.wholes ["_id", "order", "name", "description", "type", "responseDataType", "readAttempts",
    "responseName", "delayBefore", "delayAfter", "helpUri", "variableName", "command"] ++
  [(["preParameters"], shape (List Parameter)), (["postParameters"], shape (List Parameter))])⟩

instance : Codec Instruction where
  encode i := record [
    field "_id" i.id,
    fieldIfSome "order" i.order,
    field "name" i.name,
    fieldIfSome "description" i.description,
    field "type" i.kind,
    fieldIfSome "responseDataType" i.responseType,
    fieldIfSome "readAttempts" i.readAttempts,
    fieldIfSome "responseName" i.responseName,
    fieldIfSome "delayBefore" i.delayBefore,
    fieldIfSome "delayAfter" i.delayAfter,
    fieldIfSome "helpUri" i.helpUri,
    fieldIfSome "variableName" i.variableName,
    field "command" i.command,
    fieldIfSome "preParameters" i.preParameters,
    fieldIfSome "postParameters" i.postParameters]
  decode j := do
    let m ← members? (shape Instruction).names j
    return {
      id := ← m.required ["_id"]
      order := ← m.optional ["order"]
      name := ← m.required ["name"]
      description := ← m.optional ["description"]
      kind := ← m.required ["type"]
      responseType := ← m.optional ["responseDataType"]
      readAttempts := ← m.optional ["readAttempts"]
      responseName := ← m.optional ["responseName"]
      delayBefore := ← m.optional ["delayBefore"]
      delayAfter := ← m.optional ["delayAfter"]
      helpUri := ← m.optional ["helpUri"]
      variableName := ← m.optional ["variableName"]
      command := ← m.defaulted ["command"] ""
      preParameters := ← m.optional ["preParameters"]
      postParameters := ← m.optional ["postParameters"] }

end CalBench
