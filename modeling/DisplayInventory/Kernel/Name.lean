import DisplayInventory.Text.Utf8

/-!
# Names in the kernel

The kernel keeps names in fields of fixed length.  A shorter name is padded with zeros and a longer
one is cut; a name that fills its field has no zero behind it.  A name is read up to the first zero.
-/

namespace DisplayInventory.Kernel

def nameFieldLength : Nat := 32

def nameField (name : List UInt8) : List UInt8 :=
  name.take nameFieldLength ++ List.replicate (nameFieldLength - name.length) 0

def beforeZero (bytes : List UInt8) : List UInt8 :=
  bytes.takeWhile (· != 0)

def readName (field : List UInt8) : String :=
  Text.Utf8.decode (beforeZero field)

end DisplayInventory.Kernel
