-- The scripts of characters, and the scripts that use them.
import Dealer.Text.Chart.SharedScripts

namespace Dealer.Script

/-- The script with a name. -/
def find? (name : String) : Option Chart.Writing :=
  Chart.writings.find? fun w => w.names.contains name

/-- The characters of the script with a name. -/
def named (name : String) : CharSet := ((find? name).map (·.chars)).getD .empty

/-- The characters that are used in several scripts, or not in the one they belong to. -/
def shared : CharSet := .unions (Chart.sharedWritings.map (·.chars))

/-- The characters that a script uses: those that belong to it and to no other, and those that it
shares. -/
def users (w : Chart.Writing) : CharSet :=
  (w.chars.diff shared).union
    (.unions ((Chart.sharedWritings.filter fun s => w.names.any s.names.contains).map (·.chars)))

end Dealer.Script
