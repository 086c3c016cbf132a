import TypedConfig.Descriptor.Basic
import TypedConfig.Proofs.Grammar

namespace TypedConfig

open Signature (Spaced IsLayout)

namespace Descriptor

mutual

/-- The canonical signature is made of the descriptor's tokens. -/
theorem spaced_render : (d : Descriptor) → Spaced d.tokens d.render.toList
  | ⟨name, []⟩ => Spaced.single (.name name)
  | ⟨name, first :: rest⟩ => by
    have named := Spaced.single (.name name)
    have opened := named.append (.single .opening)
    have arguments := (spaced_render first).append (spaced_renderRest rest)
    have whole := (opened.append arguments).append (.single .closing)
    simpa [tokens, render, Signature.Token.chars] using whole

/-- What stands behind the first argument is made of commas and the tokens of the others. -/
theorem spaced_renderRest : (ds : List Descriptor) → Spaced (tokensRest ds) (renderRest ds).toList
  | [] => .done (List.forall_mem_nil _)
  | d :: ds => by
    have comma : Spaced [.comma] [',', ' '] := (Spaced.single .comma).blank_after (by decide)
    have whole := comma.append ((spaced_render d).append (spaced_renderRest ds))
    simpa [tokensRest, renderRest] using whole

end

/-- The canonical signature spells a descriptor whose names may stand in it. -/
theorem isLayout_render {d : Descriptor} (named : d.WellNamed) : IsLayout d.render.toList d :=
  ⟨named, d.spaced_render⟩

end Descriptor

namespace Signature

theorem parse_render {d : Descriptor} (named : d.WellNamed) : parse d.render = .ok d :=
  parse_of_isLayout (Descriptor.isLayout_render named)

theorem wellNamed_of_parse {s : String} {d : Descriptor} (h : parse s = .ok d) : d.WellNamed :=
  (isLayout_of_parse h).1

/-- **Rendering and reading are inverse.** The canonical signature of a descriptor is read as this
descriptor exactly when all its names may stand in a signature. Whatever has been read is such a
descriptor, and so two signatures have one canonical form exactly when they say the same. -/
theorem rendering_and_reading_inverse :
    (∀ d : Descriptor, parse d.render = .ok d ↔ d.WellNamed) ∧
    (∀ s d, parse s = .ok d → parse d.render = .ok d) ∧
    (∀ s t d e, parse s = .ok d → parse t = .ok e → (d.render = e.render ↔ d = e)) := by
  refine ⟨fun d => ⟨wellNamed_of_parse, parse_render⟩, ?_, ?_⟩
  · intro s d read
    exact parse_render (wellNamed_of_parse read)
  · intro s t d e hd he
    have again : parse d.render = .ok d := parse_render (wellNamed_of_parse hd)
    have again' : parse e.render = .ok e := parse_render (wellNamed_of_parse he)
    constructor
    · intro same
      rw [same, again'] at again
      exact (Except.ok.inj again).symm
    · intro same
      rw [same]

/-- A name that may not stand in a signature can still be rendered as one, but of another type. -/
example : parse (Descriptor.simple "A<B>").render = .ok ⟨"A", [.simple "B"]⟩ := by decide

end Signature

end TypedConfig
