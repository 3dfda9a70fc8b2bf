import TrackerFilter.Command.Host
import TrackerFilter.Proofs.Text.Markup
import TrackerFilter.Proofs.Text.Printed

/-!
What the documentation of the screen says, as far as anything here rests on it: a text with nothing special
in it is printed as it is, and the cells of a table are read as text with style tags, which fails on a tag
that closes what no tag has opened. How wide the screen is and what it does with other texts is left open.
-/
namespace TrackerFilter

namespace Console

structure Documented (c : Console) : Prop where
  unwrapped_verbatim : ∀ text, Text.IsVerbatim text → c.unwrapped text = [text]
  cell_plain : ∀ text, '[' ∉ text.toList → ∃ shown, c.cell text = .ok shown
  cell_closing : ∀ text, Text.BeginsClosing text → ∃ crash, c.cell text = .error crash

theorem standard_documented (width : Nat) : (standard width).Documented where
  unwrapped_verbatim := fun _ => Text.unwrapped_of_isVerbatim
  cell_plain := fun _ => Text.unstyled_of_notMem
  cell_closing := fun _ => Text.unstyled_of_beginsClosing

end Console

end TrackerFilter
