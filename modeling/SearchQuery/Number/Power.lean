/-!
# Powers

Powers of numbers are the same operation in every module, whatever else a module imports.
-/

@[default_instance 20000]
instance (priority := 2000) powOfNatPow {α : Type} [NatPow α] : Pow α Nat := instPowNat
