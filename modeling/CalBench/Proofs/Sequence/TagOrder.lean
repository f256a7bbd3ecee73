/-
The order of response tags in plans.

A step may refer to responses by tag, and a command may store one. `TagsOrdered` says of a list of steps that every
tag is stored by an earlier step, or known before, when a step refers to it. It looks at steps alone: neither at the
catalog nor at the operations that the steps come from.

Results:
- `Becomes.tag_eq`: an operation that produces a tag becomes a command that stores it;
- `tagsOrdered_of_compile`: the steps of a compiled plan are ordered, with nothing known before.
-/
import CalBench.Proofs.Sequence.Acceptance

namespace CalBench

namespace Step

/-- the instruction that a step renders when it is carried out -/
def source? : Step → Option BoundInstruction
  | .command c => c.instruction
  | .setVariable _ source => some source
  | _ => none

def tag? : Step → Option String
  | .command c => c.read.map ReadSpec.tag
  | _ => none

def referencedTags (s : Step) : List String := (s.source?.map fun b => b.instruction.referencedTags).getD []

/-- every tag that a step refers to is known: it was before, or an earlier step stores a response under it -/
def TagsOrdered : (String → Prop) → List Step → Prop
  | _, [] => True
  | known, s :: rest =>
    (∀ tag ∈ s.referencedTags, known tag) ∧ TagsOrdered (fun tag => s.tag? = some tag ∨ known tag) rest

end Step

namespace Operation

variable {catalog : Catalog} {ctx : Context} {produced : String → Prop} {o : Operation} {s : Step}

theorem HasKind.unique {bound : Option BoundInstruction} {k k' : CommandKind} (h : HasKind o bound k)
    (h' : HasKind o bound k') : k = k' :=
  (commandKind_meets o bound).unique h h'

theorem BoundTo.unique {b b' : Option BoundInstruction} (h : BoundTo catalog o b) (h' : BoundTo catalog o b') :
    b = b' := by
  cases h with
  | plain hi => exact ((boundTo_plain_iff hi).1 h').symm
  | instructed r i hr hi hv =>
    obtain ⟨i', hi', -, rfl⟩ := (boundTo_referring_iff hr).1 h'
    cases hi.symm.trans hi'
    rfl

/-- a command that reads stores its response under the tag of its operation -/
theorem Commands.tag_eq {bound : Option BoundInstruction} {c : Command} {tag : String} (hc : Commands ctx o bound c)
    {k : CommandKind} (hk : HasKind o bound k) (hr : k.reads = true) (ht : StandsFor ctx o.responseTag tag) :
    c.read.map ReadSpec.tag = some tag := by
  have hread := hc.read
  rw [hc.kind.unique hk, if_pos hr] at hread
  obtain ⟨r, hcr, hspec⟩ := hread
  have hrt : r.tag = tag := Option.some.inj (hspec.tag.1.symm.trans ht.1)
  rw [hcr, Option.map_some, hrt]

/-- **An operation that produces a tag becomes a command that stores a response under it.** -/
theorem Becomes.tag_eq (h : Becomes catalog ctx produced o s) {tag : String} (hp : Produces catalog ctx o tag) :
    s.tag? = some tag := by
  obtain ⟨hkind, ⟨bound, k, hb, hk, hr⟩, ht⟩ := hp
  cases h with
  | plain c _ hi hc =>
    have hbound := hb.unique (.plain hi)
    subst hbound
    exact hc.tag_eq hk hr ht
  | instructed r i c _ href hi _ hv hc =>
    have hbound := hb.unique (.instructed r i href hi hv)
    subst hbound
    exact hc.tag_eq hk hr ht
  | assignment r i name _ href hi _ hv =>
    -- an assignment is bound to no instruction that a command could take
    obtain ⟨i', hi', hv', -⟩ := (boundTo_referring_iff href).1 hb
    cases hi.symm.trans hi'
    exact absurd hv hv'
  | delay _ hk' | resetDevice _ hk' | resetInterface _ hk' | trigger _ hk' =>
    exact absurd (hkind.symm.trans hk') (by decide)

theorem Becomes.referencedTags (h : Becomes catalog ctx produced o s) : ∀ tag ∈ s.referencedTags, produced tag := by
  cases h with
  | plain c _ _ hc => simp [Step.referencedTags, Step.source?, hc.instruction]
  | instructed r i c _ _ _ ht _ hc => simpa [Step.referencedTags, Step.source?, hc.instruction] using ht
  | assignment r i name _ _ _ ht => simpa [Step.referencedTags, Step.source?] using ht
  | delay | resetDevice | resetInterface | trigger => simp [Step.referencedTags, Step.source?]

end Operation

open Operation

theorem Step.TagsOrdered.mono {known known' : String → Prop} {steps : List Step} (h : TagsOrdered known steps)
    (hk : ∀ tag, known tag → known' tag) : TagsOrdered known' steps := by
  induction steps generalizing known known' with
  | nil => trivial
  | cons s rest ih =>
    exact ⟨fun tag ht => hk tag (h.1 tag ht), ih h.2 fun tag => Or.imp_right (hk tag)⟩

theorem tagsOrdered_of_becomeAll {catalog : Catalog} {ctx : Context} {produced : String → Prop}
    {operations : List Operation} {steps : List Step} (h : BecomeAll catalog ctx produced operations steps) :
    Step.TagsOrdered produced steps := by
  induction h with
  | nil => trivial
  | cons h _ ih => exact ⟨h.referencedTags, ih.mono fun tag => Or.imp_left h.tag_eq⟩

/-- **Compiled plans are ordered.** Every tag that a step refers to is stored by an earlier step. -/
theorem tagsOrdered_of_compile {catalog : Catalog} {ctx : Context} {d : SequenceDocument} {plan : Plan}
    (h : d.compile catalog ctx = .ok plan) : Step.TagsOrdered (fun _ => False) plan.steps :=
  tagsOrdered_of_becomeAll ((compile_eq_ok_iff d plan).1 h).2

end CalBench
