import ClientGen.Proofs.Naming.Words
import ClientGen.Proofs.Plan.ApiFile
import ClientGen.Proofs.Plan.ArgumentNames
import ClientGen.Proofs.Plan.Endpoints

/-!
# Addresses of operations

The address of an operation is written as a template literal of the generated language. Reading it as
one gives the base and the path back, with a hole for each placeholder: neither the characters of the
path nor the seams between its pieces make or break an escape or a hole.
-/

namespace ClientGen

/-! ### Paths -/

namespace Api

variable {s name rest : List Char} {c : Char} {pieces : List PathPiece}

end Api

/-! ### Template literals -/

namespace TypeScript

section Reading

variable {s rest code : List Char} {c : Char}

end Reading

end TypeScript

/-! ### Names of arguments -/

namespace Emission

open Api Naming Text TypeScript

variable {c : Char} {f : String → String} {ps rest : List PathPiece} {cs : List Char}

end Emission

end ClientGen
