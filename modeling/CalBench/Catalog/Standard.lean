/-
The instruction sets that instruments share by standard: the common commands that IEEE 488.2
mandates and the commands that SCPI requires. Their ids are fixed, so that sequences can refer to
them whatever the library.
-/
import CalBench.Catalog.Basic

namespace CalBench.Standard

/-- a command without parameters -/
def write (id name command : String) : Instruction := { id, name, kind := .write, command }

def query (id name command : String) (type : ResponseType) : Instruction :=
  { id, name, kind := .query, command, responseType := some type }

/-- a command that takes one number after a blank -/
def writeNumber (id name command parameterId prompt : String) : Instruction :=
  { id, name, kind := .write, command,
    postParameters := some [{ id := parameterId, kind := .number, prompt, beforeText := some " " }] }

/-- instructions numbered from zero in the order given -/
def numbered (instructions : List Instruction) : List Instruction :=
  instructions.zipIdx.map fun (i, n) => { i with order := some n.toUInt32 }

/-- the commands mandated by IEEE 488.2 -/
def ieee4882 : InstructionSet where
  id := "ieee-488.2-mandated-commands"
  name := "IEEE 488.2 Mandated Commands"
  instructions := numbered [
    write "524afd49-7a68-47aa-8f30-3ad68c3466f0" "Clear Status Command" "*CLS",
    writeNumber "b345a42a-1661-42a4-acd8-6a1e6f9d17f7" "Standard Event Status Enable Command" "*ESE"
      "0be8ab1e-a8fe-4a9b-a9e0-70131d7998de" "Event status value?",
    query "96b52d35-b46b-4e5e-94ad-49ebaae34b5e" "Standard Event Status Enable Query" "*ESE?" .number,
    query "61b8b79a-1b18-47e6-b2de-93772c7562da" "Standard Event Status Register Query" "*ESR?" .number,
    query "4caa1e38-6641-4781-b63b-e303b24577c6" "Identification Query" "*IDN?" .string,
    write "5a7821d5-bcad-44fe-958d-e5edcc90ee6d" "Operation Complete Command" "*OPC",
    query "6d37157d-53ac-49dd-b930-e51de3042d11" "Operation Complete Query" "*OPC?" .boolean,
    write "232934f6-5832-4f9b-99bd-93c316bd7ca6" "Reset Command" "*RST",
    writeNumber "750e25a6-c3b5-484d-8bc8-92c47ac62b85" "Service Request Enable Command" "*SRE"
      "9f0f191d-1ad4-4628-833f-370611eb6ff2" "Service enable value?",
    query "e6bc632a-864f-4d7e-a64d-b2abbb5cd46e" "Service Request Enable Query" "*SRE?" .number,
    query "a3be687b-56f4-415f-8751-d346d85f0a4c" "Read Status Byte Query" "*STB?" .number,
    query "e6e36956-d36b-47e0-99d2-07f5f8c3c48c" "Self-Test Query" "*TST?" .number,
    write "f7019a3c-d33c-4007-afcd-5abadd9bd3a4" "Wait-to-Continue Command" "*WAI"]

/-- the commands required by SCPI -/
def scpi : InstructionSet where
  id := "scpi-required-commands"
  name := "SCPI Required Commands"
  instructions := numbered [
    query "faa3d671-213a-4e21-82f4-5c60644be34a" "System Error Query" "SYSTem:ERRor?" .string,
    query "b3a43737-1968-4b69-8532-2adbaabb7ea4" "System Version Query" "SYSTem:VERSion?" .string,
    query "aed334e4-9fcd-4b08-bac6-7e1e0f193761" "Status Operation Event Query"
      "STATus:OPERation:EVENt?" .number,
    query "85cdcc7a-f3fc-435f-98b2-5db8cab00f5c" "Status Operation Condition Query"
      "STATus:OPERation:CONDition?" .number,
    writeNumber "cce0e9b2-340b-4b60-b1af-5b1efa6582a6" "Status Operation Enable Command"
      "STATus:OPERation:ENABle" "72663b5a-3035-4a55-9142-4004af9ec4cf" "Operation status value?",
    query "6f41f82a-94cc-4530-bc9a-7fdfbf3dff08" "Status Operation Enable Query"
      "STATus:OPERation:ENABle?" .number,
    query "76569773-162a-4021-baee-e8ea6d2d5fd8" "Status Questionable Event Query"
      "STATus:QUEStionable:EVENt?" .number,
    query "263b4eeb-5f3e-42c7-bdda-602ce36253ee" "Status Questionable Condition Query"
      "STATus:QUEStionable:CONDition?" .number,
    writeNumber "e8df7e5a-0b4b-49ab-a7b0-f5a9dd3da3a3" "Status Questionable Enable Command"
      "STATus:QUEStionable:ENABle" "ae1a7724-0b60-4326-93dd-5121fd29d4f1" "Questionable status value?",
    query "a2174281-7a9e-41b4-97ec-01da025a291c" "Status Questionable Enable Query"
      "STATus:QUEStionable:ENABle?" .number,
    write "be4fd43b-5149-40fa-86ad-cb30b4d48fa1" "Status Preset Command" "STATus:PRESet"]

end CalBench.Standard
