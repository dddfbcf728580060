import ToolParams.Json.Printer
import ToolParams.Registry.Document

/-!
# The bundled registry

The tools that the program knows without further files.
-/

namespace ToolParams.Registry

/-- The lines of the parameter file of `dmstat`. -/
def dmstatLines : List String :=
  ["infile,f,a,\"\",,,\"Input file specification\"",
    "centroid,b,h,yes,,,\"Calculate centroid if image?\"",
    "median,b,h,no,,,\"Calculate median value?\"",
    "sigma,b,h,yes,,,\"Calculate the population standard deviation?\"",
    "clip,b,h,no,,,\"Calculate stats using sigma clipping?\"",
    "nsigma,r,h,3,,,\"Number of sigma to clip\"",
    "maxiter,i,h,20,1,,\"Maximum number of iterations\"",
    "verbose,i,h,0,0,5,\"Verbosity level\"",
    "out_columns,s,h,\"\",,,\"Output Column Label\"",
    "out_min,s,h,\"\",,,\"Output Minimum Value\"",
    "out_min_loc,s,h,\"\",,,\"Output Minimum Location Value\"",
    "out_max,s,h,\"\",,,\"Output Maximum Value\"",
    "out_max_loc,s,h,\"\",,,\"Output Maximum Location Value\"",
    "out_mean,s,h,\"\",,,\"Output Mean Value\"",
    "out_median,s,h,\"\",,,\"Output Median Value\"",
    "out_sigma,s,h,\"\",,,\"Output Sigma Value\"",
    "out_sum,s,h,\"\",,,\"Output Sum of Values\"",
    "out_good,s,h,\"\",,,\"Output Number Good Values\"",
    "out_null,s,h,\"\",,,\"Output Number Null Values\"",
    "out_cnvrgd,s,h,\"\",,,\"Converged?\"",
    "out_cntrd_logical,s,h,\"\",,,\"Output Centroid Logical Value\"",
    "out_cntrd_phys,s,h,\"\",,,\"Output Centroid Physical Value\"",
    "out_sigma_cntrd,s,h,\"\",,,\"Output Sigma Centroid Value\"",
    "mode,s,h,\"ql\",,,"]

/-- The lines of the parameter file of `dmcopy`. -/
def dmcopyLines : List String :=
  ["infile,f,a,\"\",,,\"Input dataset/block specification\"",
    "outfile,f,a,\"\",,,\"Output dataset name\"",
    "kernel,s,h,\"default\",,,\"Output file format type\"",
    "option,s,h,\"\",,,\"Option - force output type\"",
    "verbose,i,h,0,0,5,\"Debug Level\"",
    "clobber,b,h,no,,,\"Clobber existing file\"",
    "mode,s,h,\"ql\",,,"]

/-- The lines of the parameter file of `vtpdetect`. -/
def vtpdetectLines : List String :=
  ["infile,f,a,\"\",,,\"Input file\"",
    "expfile,f,a,\"none\",,,\"Exposure map\"",
    "outfile,f,a,\"\",,,\"Output source list\"",
    "scell_file,f,h,\"\",,,\"Output source cell file\"",
    "image_file,f,h,\"\",,,\"Output image file\"",
    "limit,r,h,1e-06,,,\"Max probability of being a false source\"",
    "coarse,i,h,10,,,\"Minimum number of events in a source\"",
    "maxiter,i,h,10,,,\"Max number of iterations\"",
    "mincutoff,r,h,0,0,10,\"Minimum cutoff for source detection\"",
    "regfile,f,h,\"\",,,\"Output region file\"",
    "ellsigma,r,h,3,,,\"Size of output source ellipses (in sigmas)\"",
    "edge,i,h,2,0,2,\"Edge treatment\"",
    "verbose,i,h,0,0,5,\"Verbose level\"",
    "clobber,b,h,no,,,\"Clobber existing output files\"",
    "mode,s,h,\"ql\",,,"]

/-- The lines of the parameter file of `dmimg2jpg`. -/
def dmimg2jpgLines : List String :=
  ["infile,f,a,\"\",,,\"Input red image\"",
    "greenfile,f,h,\"none\",,,\"Input green image\"",
    "bluefile,f,h,\"none\",,,\"Input blue image\"",
    "outfile,f,a,\"\",,,\"Output jpeg file\"",
    "scalefunction,s,h,\"log\",log|linear|power|asinh,,\"Scaling function\"",
    "colorshift,i,h,0,0,255,\"Shift color scale\"",
    "invert,b,h,no,,,\"Invert the colormap?\"",
    "psfile,s,h,\"none\",,,\"Name of output postscript file\"",
    "verbose,i,h,0,0,5,\"Debug level\"",
    "clobber,b,h,no,,,\"Clobber existing output file?\"",
    "mode,s,h,\"ql\",,,"]

/-- The lines of the parameter file of `dmgti`. -/
def dmgtiLines : List String :=
  ["infile,f,a,\"\",,,\"Input MTL file\"",
    "outfile,f,a,\"\",,,\"Output GTI file\"",
    "userlimit,s,a,\"\",,,\"User defined limits\"",
    "mtlfile,f,h,\"none\",,,\"Optional output smoothed/filtered MTL file\"",
    "lkupfile,f,h,\"none\",,,\"Lookup table defining which MTL columns to check against\"",
    "smooth,b,h,yes,,,\"Smooth the input MTL data?\"",
    "clobber,b,h,no,,,\"Clobber output file if it exists?\"",
    "verbose,i,h,0,0,5,\"Debug level\"",
    "mode,s,h,\"ql\",,,"]

/-- The lines of the parameter file of `ardlib`. -/
def ardlibLines : List String :=
  ["AXAF_ACIS0_QEU_FILE,f,h,\"CALDB\",,,\"Enter ACIS-0 QEU filename\"",
    "AXAF_ACIS0_BADPIX_FILE,f,h,\"CALDB\",,,\"Enter ACIS-0 Bad Pixel filename\"",
    "AXAF_ACIS1_QEU_FILE,f,h,\"CALDB\",,,\"Enter ACIS-1 QEU filename\"",
    "AXAF_ACIS1_BADPIX_FILE,f,h,\"CALDB\",,,\"Enter ACIS-1 Bad Pixel filename\"",
    "mode,s,h,\"hl\",,,"]

/-- The bundled tools by name. -/
def bundledTools : List (String × ToolEntry) :=
  [("dmstat", { kind := .parameterFile, executable := none, lines := dmstatLines }),
    ("dmcopy", { kind := .parameterFile, executable := none, lines := dmcopyLines }),
    ("vtpdetect", { kind := .parameterFile, executable := none, lines := vtpdetectLines }),
    ("dmimg2jpg", { kind := .parameterFile, executable := none, lines := dmimg2jpgLines }),
    ("dmgti", { kind := .direct, executable := none, lines := dmgtiLines }),
    ("ardlib", { kind := .parametersOnly, executable := none, lines := ardlibLines })]

/-- A tool as a member of a registry document. -/
def entryJson (entry : ToolEntry) : Json :=
  .object [("kind", .text entry.kind.name), ("lines", .ofTexts entry.lines)]

def bundledDocument : String :=
  (Json.object [("tools", .object (bundledTools.map fun (name, entry) =>
    (name, entryJson entry)))]).pretty 0 ++ "\n"

end ToolParams.Registry
