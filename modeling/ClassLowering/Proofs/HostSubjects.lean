import ClassLowering.Expr

/-!
# What operations of the host work on

The host makes things and calls them, asks for classes, looks up what a class
shares, works on the properties of objects, or takes what generators hold. A
statement about all of its operations is proved for each of these groups first.
-/

namespace ClassLowering

/-- What an operation of the host works on. -/
inductive HostSubject where
  | call
  | klass
  | member
  | property
  | generator

/-- The subject of an operation of the host. -/
def HostOperation.subject : HostOperation -> HostSubject
  | .newObject | .construct | .callClass | .callFunction => .call
  | .sameClass | .classOf | .samePrototype | .prototypeClass
  | .isInstance => .klass
  | .prototypeMethod | .prototypeGetter | .prototypeSetter
  | .fieldInitializer => .member
  | .readProperty | .writeProperty | .invokeProperty | .ownField
  | .hasOwnField | .copyFields | .toKey => .property
  | .nextYield | .isExhausted | .drainCount => .generator

end ClassLowering
