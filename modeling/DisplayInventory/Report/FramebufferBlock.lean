import DisplayInventory.Card.Objects
import DisplayInventory.Text.Layout

/-!
# Framebuffers in a report
-/

namespace DisplayInventory.Framebuffer

/-- The lines of a framebuffer.  The buffer is told by its handle, once more at the end. -/
def lines (framebuffer : Framebuffer) : List String :=
  ["Framebuffer",
   Text.field 10 "handle" (Text.decimal framebuffer.handle.toNat),
   Text.field 10 "width" (Text.decimal framebuffer.width.toNat),
   Text.field 10 "height" (Text.decimal framebuffer.height.toNat),
   Text.field 10 "pitch" (Text.decimal framebuffer.pitch.toNat),
   Text.field 10 "bpp" (Text.decimal framebuffer.bpp.toNat),
   Text.field 10 "depth" (Text.decimal framebuffer.depth.toNat),
   Text.field 10 "buffer_id" (Text.decimal framebuffer.handle.toNat)]

end DisplayInventory.Framebuffer
