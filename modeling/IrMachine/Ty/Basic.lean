/-!
# Value types

The types of the intermediate representation. Integers carry their width in bits, which may be any
number; pointers are untyped. `Ty.text` is the way a type is written in the program text and in
faults, `Ty.describe` the structural form that dumps show.
-/

namespace IrMachine

/-- A type of the intermediate representation. -/
inductive Ty where
  | void
  /-- An integer of the given width in bits. -/
  | int (bits : Nat)
  | float
  | double
  /-- The 80-bit extended format. -/
  | float80
  | pointer
  | function (result : Ty) (params : List Ty) (varargs : Bool)
  | struct (fields : List Ty) (packed : Bool)
  | array (element : Ty) (length : Nat)
deriving Inhabited

namespace Ty

mutual

def same : Ty → Ty → Bool
  | void, void | float, float | double, double | float80, float80 | pointer, pointer => true
  | int bits, int bits' => bits == bits'
  | function result params varargs, function result' params' varargs' =>
      same result result' && sameList params params' && varargs == varargs'
  | struct fields packed, struct fields' packed' => sameList fields fields' && packed == packed'
  | array element length, array element' length' => same element element' && length == length'
  | _, _ => false

def sameList : List Ty → List Ty → Bool
  | [], [] => true
  | ty :: rest, ty' :: rest' => same ty ty' && sameList rest rest'
  | _, _ => false

end

mutual

theorem same_iff : ∀ a b : Ty, same a b = true ↔ a = b
  | void, b => by cases b <;> simp [same]
  | int _, b => by cases b <;> simp [same]
  | float, b => by cases b <;> simp [same]
  | double, b => by cases b <;> simp [same]
  | float80, b => by cases b <;> simp [same]
  | pointer, b => by cases b <;> simp [same]
  | function result params _, b => by
      cases b <;> simp [same, same_iff result, sameList_iff params, and_assoc]
  | struct fields _, b => by cases b <;> simp [same, sameList_iff fields]
  | array element _, b => by cases b <;> simp [same, same_iff element]

theorem sameList_iff : ∀ as bs : List Ty, sameList as bs = true ↔ as = bs
  | [], bs => by cases bs <;> simp [sameList]
  | ty :: rest, bs => by cases bs <;> simp [sameList, same_iff ty, sameList_iff rest]

end

instance : DecidableEq Ty := fun a b => decidable_of_iff _ (same_iff a b)

def isInteger : Ty → Bool
  | int _ => true
  | _ => false

/-- Whether the type is handed about by reference. -/
def isAggregate : Ty → Bool
  | struct .. | array .. => true
  | _ => false

mutual

def text : Ty → String
  | void => "void"
  | int bits => "i" ++ toString bits
  | float => "float"
  | double => "double"
  | float80 => "x86_fp80"
  | pointer => "ptr"
  | function result params varargs =>
      text result ++ " (" ++ textList params ++ (if varargs then ", ..." else "") ++ ")"
  | struct fields packed =>
      (if packed then "<" else "") ++ "\x7b " ++ textList fields ++ " \x7d" ++
        (if packed then ">" else "")
  | array element length => "[" ++ toString length ++ " x " ++ text element ++ "]"

def textList : List Ty → String
  | [] => ""
  | [ty] => text ty
  | ty :: rest => text ty ++ ", " ++ textList rest

end

mutual

def describe : Ty → String
  | void => "Void"
  | int bits => "Integer(" ++ toString bits ++ ")"
  | float => "Float"
  | double => "Double"
  | float80 => "X86Fp80"
  | pointer => "Pointer"
  | function result params varargs =>
      "Function(FunctionType \x7b return_type: " ++ describe result ++ ", params: [" ++
        describeList params ++ "], varargs: " ++ toString varargs ++ " \x7d)"
  | struct fields packed =>
      "Struct \x7b fields: [" ++ describeList fields ++ "], packed: " ++ toString packed ++ " \x7d"
  | array element length =>
      "Array \x7b element: " ++ describe element ++ ", len: " ++ toString length ++ " \x7d"

def describeList : List Ty → String
  | [] => ""
  | [ty] => describe ty
  | ty :: rest => describe ty ++ ", " ++ describeList rest

end

end Ty

end IrMachine
