import SeamCarving.Carving.Carver
import SeamCarving.Carving.Event
import SeamCarving.Carving.Schedule
import SeamCarving.CommandLine.Arguments
import SeamCarving.CommandLine.Bitmap
import SeamCarving.CommandLine.Bitmap.Fault
import SeamCarving.CommandLine.Bitmap.Header
import SeamCarving.CommandLine.Bitmap.Mask
import SeamCarving.CommandLine.Bitmap.RunLength
import SeamCarving.CommandLine.Complaint
import SeamCarving.CommandLine.Directory
import SeamCarving.CommandLine.Information
import SeamCarving.CommandLine.Path
import SeamCarving.CommandLine.Run
import SeamCarving.Energy.Basic
import SeamCarving.Energy.Shade
import SeamCarving.Error
import SeamCarving.Grid.Bands
import SeamCarving.Grid.Basic
import SeamCarving.Grid.Edit
import SeamCarving.Grid.Lemmas
import SeamCarving.Image.Basic
import SeamCarving.Image.View
import SeamCarving.Main
import SeamCarving.Pixel.Coloured
import SeamCarving.Pixel.Layout
import SeamCarving.Seam.LeftEdge
import SeamCarving.Seam.Removal
import SeamCarving.Seam.Search
import SeamCarving.Seam.Tableau
import SeamCarving.Text.Quoted
import SeamCarving.Text.Unprintable
import SeamCarving.Proofs.Carving.Closing
import SeamCarving.Proofs.Carving.Cone
import SeamCarving.Proofs.Carving.Corner
import SeamCarving.Proofs.Carving.Course
import SeamCarving.Proofs.Carving.Duality
import SeamCarving.Proofs.Carving.EightBits
import SeamCarving.Proofs.Carving.Ending
import SeamCarving.Proofs.Carving.Finding
import SeamCarving.Proofs.Carving.InPlace
import SeamCarving.Proofs.Carving.Inspected
import SeamCarving.Proofs.Carving.Origin
import SeamCarving.Proofs.Carving.Reach
import SeamCarving.Proofs.Carving.Recoloured
import SeamCarving.Proofs.Carving.Refreshing
import SeamCarving.Proofs.Carving.Removals
import SeamCarving.Proofs.Carving.Run
import SeamCarving.Proofs.Carving.Staging
import SeamCarving.Proofs.CommandLine.Files
import SeamCarving.Proofs.CommandLine.Numeral
import SeamCarving.Proofs.CommandLine.Shrinking
import SeamCarving.Proofs.CommandLine.Wording
import SeamCarving.Proofs.Energy.Around
import SeamCarving.Proofs.Energy.Brightness
import SeamCarving.Proofs.Energy.Filling
import SeamCarving.Proofs.Energy.FloatLaws
import SeamCarving.Proofs.Energy.FloatOrder
import SeamCarving.Proofs.Energy.FloatShade
import SeamCarving.Proofs.Energy.Magnitude
import SeamCarving.Proofs.Energy.Rounding
import SeamCarving.Proofs.Energy.Shading
import SeamCarving.Proofs.Energy.Symmetry
import SeamCarving.Proofs.Energy.WholeFloat
import SeamCarving.Proofs.Grid.Address
import SeamCarving.Proofs.Grid.Banding
import SeamCarving.Proofs.Grid.Dividing
import SeamCarving.Proofs.Grid.Editing
import SeamCarving.Proofs.Grid.Making
import SeamCarving.Proofs.Grid.Reading
import SeamCarving.Proofs.Grid.Writing
import SeamCarving.Proofs.Image.Pixels
import SeamCarving.Proofs.Seam.Cheapest
import SeamCarving.Proofs.Seam.FarFromEdge
import SeamCarving.Proofs.Seam.Fits
import SeamCarving.Proofs.Seam.LeftmostLeast
import SeamCarving.Proofs.Seam.PathCost
import SeamCarving.Proofs.Seam.Recurrence
import SeamCarving.Proofs.Seam.Refusal
import SeamCarving.Proofs.Seam.Relaxation
import SeamCarving.Proofs.Seam.Removed
import SeamCarving.Proofs.Seam.StaysInside
import SeamCarving.Proofs.Seam.Sweep
import SeamCarving.Proofs.Seam.Terrain
import SeamCarving.Proofs.Seam.WholeCosts
import SeamCarving.Proofs.Text.Splitting
