import Stencil.Proofs.CompiledSources
import Stencil.Proofs.ExpressionTags
import Stencil.Proofs.MemberAnswers
import Stencil.Proofs.SeveredPieces

/-! A variable with members behind it: what it is read as, and what it comes to in a render. -/

namespace Stencil

section

variable {read : String → Except Failure Value} {place : Position} {word : String}
  {members : List String} {value : Value}

end

section

variable {tag : Tag} {word : String} {members : List String}

end

section

variable {word : String} {members : List String} {value : Value} {name file : Option String}
  {arguments : List Value} {keywords context : Dict}

end

end Stencil
