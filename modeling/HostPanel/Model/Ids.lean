import HostPanel.Model.Shared

namespace HostPanel.Model

def recoveryAlphabet : List Char := "ABCDEFGHJKLMNPQRSTUVWXYZ23456789".toList

/-- `randomChar` of one random byte. -/
def randomChar (byte : Fin 256) : Char :=
  recoveryAlphabet.get ⟨byte.val % recoveryAlphabet.length, Nat.mod_lt _ (by decide)⟩

/-- Three groups of four characters, of the random bytes in the order they are
drawn. -/
def generateRecoveryCode (bytes : Fin 3 → Fin 4 → Fin 256) : String :=
  "-".intercalate (List.ofFn (fun i => String.ofList (List.ofFn (fun j => randomChar (bytes i j)))))

end HostPanel.Model
