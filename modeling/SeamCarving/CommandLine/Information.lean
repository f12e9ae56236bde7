/-!
# What the command says about itself

The lines that the help flag and the version flag print.
-/

namespace SeamCarving.CommandLine

/-- The name by which the command is called. -/
def commandName : String := "seamshrink"

/-- The name and the version of the command. -/
def versionLine : String := commandName ++ " 0.1.0"

/-- The help text, line by line. -/
def helpLines : List String := [
  versionLine,
  "Elf M. Sternberg <elf.sternberg@gmail.com>",
  "Content-aware image shrinking by seam carving",
  "",
  "USAGE:",
  "    seamshrink [OPTIONS] <input> <output>",
  "",
  "FLAGS:",
  "    -h, --help       Prints help information",
  "    -V, --version    Prints version information",
  "",
  "OPTIONS:",
  "        --energy-map <energy-map>    Also write the input's energy map, as greyscale, to this file",
  "        --height <height>            Target height in pixels (default: unchanged)",
  "        --left-edge <left-edge>      Which neighbour the left edge compares against when seam finding [default:",
  "                                     lookahead]  [possible values: lookahead, previous]",
  "        --width <width>              Target width in pixels (default: unchanged)",
  "",
  "ARGS:",
  "    <input>     The image to shrink",
  "    <output>    Where to write the shrunken image"]

end SeamCarving.CommandLine
