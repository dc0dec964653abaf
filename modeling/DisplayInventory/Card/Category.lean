import DisplayInventory.Card.Objects

/-!
# Categories of listed objects
-/

namespace DisplayInventory

/-- The four kinds of objects that a card lists. -/
inductive Category where
  | connectors
  | encoders
  | crtcs
  | framebuffers
  deriving DecidableEq

namespace Resources

def list (resources : Resources) : Category -> List UInt32
  | .connectors => resources.connectors
  | .encoders => resources.encoders
  | .crtcs => resources.crtcs
  | .framebuffers => resources.framebuffers

def withList (resources : Resources) (category : Category) (ids : List UInt32) : Resources :=
  match category with
  | .connectors => { resources with connectors := ids }
  | .encoders => { resources with encoders := ids }
  | .crtcs => { resources with crtcs := ids }
  | .framebuffers => { resources with framebuffers := ids }

def append (resources : Resources) (category : Category) (ids : List UInt32) : Resources :=
  resources.withList category (resources.list category ++ ids)

theorem list_withList_self (resources : Resources) (category : Category) (ids : List UInt32) :
    (resources.withList category ids).list category = ids := by
  cases category <;> rfl

theorem list_withList_of_ne (resources : Resources) {category other : Category}
    (ids : List UInt32) (hne : other ≠ category) :
    (resources.withList category ids).list other = resources.list other := by
  cases category <;> cases other <;> first | rfl | exact absurd rfl hne

end Resources

end DisplayInventory
